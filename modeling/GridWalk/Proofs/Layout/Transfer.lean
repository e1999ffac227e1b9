import GridWalk.Layout.Transfer
import GridWalk.Proofs.Json.Reader
import GridWalk.Proofs.Layout.Scatter
import GridWalk.Proofs.Text.Base64
import GridWalk.Proofs.Text.Numeral
import Mathlib.Data.Bool.AllAny

/-!
# Transfer strings read back

A layout that was made in any way comes back from its transfer string.
-/

namespace GridWalk

/-! ## Map files -/

namespace MapFile

open Json

theorem bytesOf_intercalate (texts : List String) :
    bytesOf (String.intercalate "," texts) = [byte ','].intercalate (texts.map bytesOf) := by
  have comma_eq : bytesOf "," = [byte ','] := by
    rw [bytesOf_eq_flatMap]
    rfl
  induction texts with
  | nil =>
      rw [bytesOf_eq_flatMap]
      rfl
  | cons text texts induction =>
      cases texts with
      | nil => simp
      | cons next texts =>
          rw [String.intercalate_cons_cons, bytesOf_append, bytesOf_append, induction, comma_eq]
          simp only [List.map_cons, List.intercalate_cons_cons]

theorem write_eq_append (file : MapFile) :
    file.write = "\x7b\"tile_length\":" ++ writeBinary32 file.tileLength ++ ",\"rows\":[" ++
      String.intercalate "," (file.rows.map quote) ++ "]\x7d" := by
  unfold write
  generalize writeBinary32 file.tileLength = length
  generalize String.intercalate "," (file.rows.map quote) = rows
  rfl

theorem bytesOf_write (file : MapFile) :
    bytesOf file.write =
      writeRecord tileLengthField.name rowsField.name (bytesOf (writeBinary32 file.tileLength))
        (writeList (fun row => bytesOf (quote row)) file.rows) := by
  have head_eq : bytesOf "\x7b\"tile_length\":" =
      byte '{' :: (bytesOf (quote tileLengthField.name) ++ [byte ':']) := by
    rw [bytesOf_eq_flatMap, bytesOf_eq_flatMap]
    rfl
  have middle_eq : bytesOf ",\"rows\":[" =
      byte ',' :: (bytesOf (quote rowsField.name) ++ [byte ':', byte '[']) := by
    rw [bytesOf_eq_flatMap, bytesOf_eq_flatMap]
    rfl
  have last_eq : bytesOf "]\x7d" = [byte ']', byte '}'] := by
    rw [bytesOf_eq_flatMap]
    rfl
  rw [write_eq_append]
  simp only [bytesOf_append, head_eq, middle_eq, last_eq, bytesOf_intercalate, writeRecord,
    writeList, List.map_map, List.append_assoc, List.cons_append, List.nil_append,
    Function.comp_def]

/-- A map file of plain rows comes back from its document if its tile length does. -/
theorem read_write (file : MapFile)
    (length_reads : readDocument readBinary32 (bytesOf (writeBinary32 file.tileLength)) =
      .ok file.tileLength)
    (plain : ∀ row ∈ file.rows, ∀ symbol ∈ row.toList, isPlain symbol = true) :
    read (bytesOf file.write) = .ok file := by
  have rows_read : Reads rowsField.read (writeList (fun row => bytesOf (quote row)) file.rows)
      file.rows :=
    reads_readList (fun row row_mem => reads_readString (plain row row_mem))
      fun row _ => starts_quote row
  have document_read := readDocument_of_reads
    (reads_readRecord tileLengthField rowsField (List.all_eq_true.mp (by decide))
      (List.all_eq_true.mp (by decide)) (by decide)
      (reads_readNumeric length_reads) rows_read)
  rw [read, bytesOf_write, document_read]
  rfl

end MapFile

namespace Layout

variable {layout : Layout} {size : GridSize}

theorem isPlain_symbolAt (cell : Cell) : Json.isPlain (layout.symbolAt cell) = true := by
  unfold symbolAt
  split
  · decide
  split <;> decide

theorem isPlain_of_mem_rows {row : String} (row_mem : row ∈ layout.toMapFile.rows) :
    ∀ symbol ∈ row.toList, Json.isPlain symbol = true := by
  intro symbol symbol_mem
  obtain ⟨number, -, rfl⟩ := List.mem_map.mp row_mem
  rw [String.toList_ofList] at symbol_mem
  obtain ⟨column, -, rfl⟩ := List.mem_map.mp symbol_mem
  exact isPlain_symbolAt _

/-! ## Dimensions -/

theorem toList_writeDimensions (size : GridSize) :
    (writeDimensions size).toList =
      (toString size.columns).toList ++ 'x' :: (toString size.rows).toList := by
  have text_eq : writeDimensions size = toString size.columns ++ "x" ++ toString size.rows := rfl
  simp [text_eq]

theorem readDimensions?_writeDimensions (nonempty : size.isEmpty = false) :
    readDimensions? (writeDimensions size).toList = some size := by
  have split_eq :
      Text.splitFirst (fun symbol => symbol = 'x' ∨ symbol = 'X') (writeDimensions size).toList =
        some ((toString size.columns).toList, (toString size.rows).toList) := by
    refine Text.splitFirst_eq_some_iff.mpr ⟨'x', rfl, fun symbol symbol_mem => ?_,
      toList_writeDimensions size⟩
    have digit := Text.isDigit_of_mem_toString symbol_mem
    exact decide_eq_false fun delimits => by
      rcases delimits with rfl | rfl <;> exact absurd digit (by decide)
  rw [readDimensions?, split_eq]
  simp [Text.trim_toString, Text.readUInt32_toString, nonempty]

/-! ## Transfer strings -/

/-- Whether a symbol may stand in a field of a transfer string: it is neither trimmed nor splits the
field. -/
def IsFieldSymbol (symbol : Char) : Prop :=
  Text.isBlank symbol = false ∧ ':' ≠ symbol

instance (symbol : Char) : Decidable (IsFieldSymbol symbol) :=
  inferInstanceAs (Decidable (_ ∧ _))

theorem isFieldSymbol_of_mem_writeDimensions (size : GridSize) :
    ∀ symbol ∈ (writeDimensions size).toList, IsFieldSymbol symbol := by
  have digits (number : UInt32) : ∀ symbol ∈ (toString number).toList, IsFieldSymbol symbol := by
    intro symbol symbol_mem
    have digit := Text.isDigit_of_mem_toString symbol_mem
    refine ⟨Text.isBlank_of_isDigit digit, ?_⟩
    rintro rfl
    exact absurd digit (by decide)
  rw [toList_writeDimensions, List.forall_mem_append, List.forall_mem_cons]
  exact ⟨digits _, by decide, digits _⟩

theorem isFieldSymbol_of_mem_encode (bytes : List UInt8) :
    ∀ symbol ∈ Base64.encode bytes, IsFieldSymbol symbol := by
  have all_symbols : ∀ symbol ∈ Base64.alphabet, IsFieldSymbol symbol :=
    List.all_iff_forall_prop.mp (by decide +kernel)
  intro symbol symbol_mem
  exact all_symbols symbol (Base64.mem_alphabet_of_mem_encode symbol symbol_mem)

theorem toList_encode (layout : Layout) :
    layout.encode.toList = transferDomain.toList ++ ':' :: (transferVersion.toList ++ ':' ::
      ((writeDimensions layout.size).toList ++ ':' ::
        Base64.encode (Json.bytesOf layout.toMapFile.write))) := by
  have text_eq : layout.encode = transferDomain ++ ":" ++ transferVersion ++ ":" ++
      writeDimensions layout.size ++ ":" ++
        String.ofList (Base64.encode (Json.bytesOf layout.toMapFile.write)) := by
    unfold encode
    generalize String.ofList (Base64.encode (Json.bytesOf layout.toMapFile.write)) = payload
    generalize writeDimensions layout.size = dimensions
    rfl
  simp [text_eq]

/-- Trimming and splitting gives back the four fields of a transfer string. -/
theorem fields_encode (layout : Layout) :
    Text.trim layout.encode.toList = layout.encode.toList ∧
      Text.fields ':' layout.encode.toList = [transferDomain.toList, transferVersion.toList,
        (writeDimensions layout.size).toList,
        Base64.encode (Json.bytesOf layout.toMapFile.write)] := by
  have domain : ∀ symbol ∈ transferDomain.toList, IsFieldSymbol symbol :=
    List.all_iff_forall_prop.mp (by decide)
  have version : ∀ symbol ∈ transferVersion.toList, IsFieldSymbol symbol :=
    List.all_iff_forall_prop.mp (by decide)
  have dimensions := isFieldSymbol_of_mem_writeDimensions layout.size
  have payload := isFieldSymbol_of_mem_encode (Json.bytesOf layout.toMapFile.write)
  have unsplit {field : List Char} (symbols : ∀ symbol ∈ field, IsFieldSymbol symbol) :
      ':' ∉ field := fun colon_mem => (symbols ':' colon_mem).2 rfl
  rw [toList_encode]
  constructor
  · apply Text.trim_of_forall
    simp only [List.forall_mem_append, List.forall_mem_cons]
    have visible {field : List Char} (symbols : ∀ symbol ∈ field, IsFieldSymbol symbol) :
        ∀ symbol ∈ field, Text.isBlank symbol = false :=
      fun symbol symbol_mem => (symbols symbol symbol_mem).1
    exact ⟨visible domain, by decide, visible version, by decide, visible dimensions, by decide,
      visible payload⟩
  · rw [Text.fields_append_cons (unsplit domain), Text.fields_append_cons (unsplit version),
      Text.fields_append_cons (unsplit dimensions), Text.fields_of_notMem (unsplit payload)]

/-! ## Layouts that can be made -/

/-- The ways to make a layout. -/
inductive Made : Layout → Prop where
  /-- It is read from a JSON map file. -/
  | read {document : Json.Bytes} {layout : Layout} (made : ofJson document = .ok layout) :
      Made layout
  /-- It is read from a transfer string. -/
  | decoded {text : String} {layout : Layout} (made : decode text = .ok layout) : Made layout
  /-- It is a grid without walls. -/
  | plain {size : GridSize} (nonempty : size.isEmpty = false) : Made (Layout.plain size)
  /-- Its walls are scattered over a grid. -/
  | scattered {size : GridSize} {density : Binary64} {seed : UInt64} {keepClear : List Cell}
      {layout : Layout} (nonempty : size.isEmpty = false)
      (made : Layout.scattered size density seed keepClear = .ok layout) : Made layout

theorem wellFormed_of_ofJson {document : Json.Bytes} (made : ofJson document = .ok layout) :
    layout.WellFormed := by
  unfold ofJson at made
  split at made
  · exact (ofMapFile_eq_ok_iff.mp made).1
  · cases made

theorem exists_ofJson_of_ofPayload {payload : List Char}
    (made : ofPayload size payload = .ok layout) : ∃ document, ofJson document = .ok layout := by
  unfold ofPayload at made
  split at made
  · cases made
  · next document _ =>
      obtain ⟨found, found_eq, checked⟩ := bind_eq_ok_iff.mp made
      split at checked
      · obtain rfl : found = layout := Except.ok.inj checked
        exact ⟨document, found_eq⟩
      · cases checked

/-- Behind every transfer string that is accepted there is a JSON map file. -/
theorem exists_ofJson_of_decode {text : String} (made : decode text = .ok layout) :
    ∃ document, ofJson document = .ok layout := by
  simp only [decode] at made
  split at made
  · cases made
  split at made
  · unfold ofParts at made
    split at made
    · cases made
    split at made
    · cases made
    split at made
    · cases made
    · exact exists_ofJson_of_ofPayload made
  all_goals cases made

theorem Made.wellFormed (made : layout.Made) : layout.WellFormed := by
  cases made with
  | read made => exact wellFormed_of_ofJson made
  | decoded made =>
      obtain ⟨document, made⟩ := exists_ofJson_of_decode made
      exact wellFormed_of_ofJson made
  | plain nonempty => exact wellFormed_plain nonempty
  | scattered nonempty made => exact wellFormed_scattered nonempty made

/-- Every layout that can be made comes back from its transfer string, if the number that its tile
length is written as reads back. -/
theorem decode_encode_of_made (made : layout.Made)
    (length_reads : Json.readDocument Json.readBinary32
      (Json.bytesOf (Json.writeBinary32 layout.tile.length)) = .ok layout.tile.length) :
    decode layout.encode = .ok layout := by
  have wellFormed := made.wellFormed
  obtain ⟨trim_eq, fields_eq⟩ := fields_encode layout
  have file_eq : ofMapFile layout.toMapFile = .ok layout :=
    ofMapFile_eq_ok_iff.mpr ⟨wellFormed, rfl⟩
  have read_eq : MapFile.read (Json.bytesOf layout.toMapFile.write) = .ok layout.toMapFile :=
    MapFile.read_write layout.toMapFile length_reads fun row row_mem => isPlain_of_mem_rows row_mem
  have json_eq : ofJson (Json.bytesOf layout.toMapFile.write) = .ok layout := by
    simp only [ofJson, read_eq, file_eq]
  have payload_eq :
      ofPayload layout.size (Base64.encode (Json.bytesOf layout.toMapFile.write)) = .ok layout := by
    rw [ofPayload, Base64.decode_encode]
    simp [json_eq]
  have text_ne : layout.encode.toList ≠ [] :=
    toList_encode layout ▸ List.append_ne_nil_of_right_ne_nil _ (List.cons_ne_nil _ _)
  simp only [decode, trim_eq, text_ne, if_false, fields_eq, ofParts, String.ofList_toList, ne_eq,
    not_true_eq_false, readDimensions?_writeDimensions wellFormed.nonempty, payload_eq]

theorem decode_encode_row :
    ∃ layout, ofJson (Json.bytesOf "\x7b\"tile_length\":1.5,\"rows\":[\"@.#\"]\x7d") = .ok layout ∧
      Json.readDocument Json.readBinary32 (Json.bytesOf (Json.writeBinary32 layout.tile.length)) =
        .ok layout.tile.length ∧
      decode layout.encode = .ok layout := by
  have made : ofJson (Json.bytesOf "\x7b\"tile_length\":1.5,\"rows\":[\"@.#\"]\x7d") =
      .ok ⟨⟨3, 1⟩, ⟨⟨0x3fc00000⟩⟩, (CellMap.replicate ⟨3, 1⟩ false).set ⟨2, 0⟩ true,
        some ⟨0, 0⟩⟩ := by
    decide +kernel
  have length_reads : Json.readDocument Json.readBinary32
      (Json.bytesOf (Json.writeBinary32 ⟨0x3fc00000⟩)) = .ok ⟨0x3fc00000⟩ := by
    decide +kernel
  exact ⟨_, made, length_reads, decode_encode_of_made (.read made) length_reads⟩

end Layout

end GridWalk
