import GridWalk.Proofs.Layout.Depiction

/-!
# The faults of a map file

All that is wrong with a map file, listed in reading order: its tile length, the lack of tiles, and
then for each row its length and its symbols from west to east. Reading stops at the first fault of
the list. Without faults the file is a map, which is read as the layout that it depicts and written
again as it was.
-/

namespace GridWalk

namespace MapFile

/-- The number of tiles in the first row, none if there is no row. -/
def width (file : MapFile) : Nat :=
  (file.rows.head?.map String.length).getD 0

/-- The size of the grid that the rows fill if all are as long as the first. -/
def size (file : MapFile) : GridSize :=
  ⟨UInt32.ofNat file.width, UInt32.ofNat file.rows.length⟩

/-- What is wrong with a tile behind others: its symbol is unknown, or it is a second start. -/
def tileFault? (row column : Nat) (earlier : List Char) (symbol : Char) : Option LayoutError :=
  if symbol ∉ MapSymbol.all then
    some (.unknownTile symbol (UInt32.ofNat column) (UInt32.ofNat row))
  else if symbol = MapSymbol.start ∧ MapSymbol.start ∈ earlier then
    some .multipleStarts
  else
    none

/-- What is wrong with a row behind the symbols of others: first its length, then its tiles from
west to east. -/
def rowFaults (width row : Nat) (north symbols : List Char) : List LayoutError :=
  (if symbols.length = width then []
    else [.raggedRow (UInt32.ofNat row) (UInt32.ofNat width) (UInt32.ofNat symbols.length)]) ++
  symbols.zipIdx.flatMap fun (symbol, column) =>
    (tileFault? row column (north ++ symbols.take column) symbol).toList

/-- All that is wrong with a map file: the tile length, the lack of tiles, and then the faults of
the rows from north to south. -/
def faults (file : MapFile) : List LayoutError :=
  (if file.tileLength.isPositiveFinite then [] else [.invalidTileLength file.tileLength]) ++
  (if file.width = 0 then [.emptyGrid] else []) ++
  file.rows.zipIdx.flatMap fun (symbols, row) =>
    rowFaults file.width row ((file.rows.take row).flatMap String.toList) symbols.toList

/-- The rows of a map tell the size of its grid. -/
theorem IsMap.size_eq {file : MapFile} {size : GridSize} (is_map : file.IsMap size) :
    file.size = size := by
  have rows_pos := (GridSize.isEmpty_eq_false_iff.mp is_map.nonempty).2
  have some_row : file.rows ≠ [] := by
    rw [← List.length_pos_iff, is_map.rows_length]
    exact rows_pos
  have width_eq : file.width = size.columns.toNat := by
    rw [width, List.head?_eq_some_head some_row]
    exact is_map.row_length _ (List.head_mem some_row)
  rw [MapFile.size, width_eq, is_map.rows_length, UInt32.ofNat_toNat, UInt32.ofNat_toNat]

end MapFile

namespace Layout

variable {layout draft : Layout} {reading : Except LayoutError Layout}
  {next : Layout → Except LayoutError Layout} {faults more : List LayoutError}
  {holds after : Layout → Prop} {file : MapFile} {row width : Nat} {symbol : Char}
  {north symbols : List Char}

/-! ## Readings and lists of faults -/

/-- A reading stops at the first of the faults. Without faults it gives a layout with the
property. -/
def Reports (reading : Except LayoutError Layout) (faults : List LayoutError)
    (holds : Layout → Prop) : Prop :=
  match reading with
  | .ok layout => faults = [] ∧ holds layout
  | .error fault => faults.head? = some fault

/-- Of two readings in a row the faults of the first come first. -/
theorem Reports.bind (first : Reports reading faults holds)
    (second : ∀ layout, holds layout → Reports (next layout) more after) :
    Reports (reading >>= next) (faults ++ more) after := by
  cases reading with
  | ok layout =>
      obtain ⟨rfl, held⟩ := first
      exact second layout held
  | error fault =>
      change (faults ++ more).head? = some fault
      rw [List.head?_append, first]
      rfl

theorem Reports.eq_error_iff (reports : Reports reading faults holds) {fault : LayoutError} :
    reading = .error fault ↔ faults.head? = some fault := by
  cases reading with
  | ok layout =>
      obtain ⟨rfl, -⟩ := reports
      simp
  | error found =>
      rw [show faults.head? = some found from reports]
      simp

/-! ## Tiles -/

/-- A draft has a start exactly if the symbols read so far mark one. -/
def Marks (draft : Layout) (earlier : List Char) : Prop :=
  draft.start.isSome = true ↔ MapSymbol.start ∈ earlier

theorem tileFault?_eq_none {column : Nat} (known : symbol ∈ MapSymbol.all)
    (only_start : symbol = MapSymbol.start → MapSymbol.start ∉ north) :
    MapFile.tileFault? row column north symbol = none := by
  rw [MapFile.tileFault?, if_neg (not_not.mpr known), if_neg]
  rintro ⟨is_start, again⟩
  exact only_start is_start again

theorem Marks.append_singleton (marks : draft.Marks north) (no_start : symbol ≠ MapSymbol.start) :
    draft.Marks (north ++ [symbol]) := by
  simpa [Marks, no_start.symm] using marks

theorem reports_layTile (row column : Nat) (symbol : Char) (marks : draft.Marks north) :
    Reports (draft.layTile ⟨UInt32.ofNat column, UInt32.ofNat row⟩ symbol)
      (MapFile.tileFault? row column north symbol).toList (·.Marks (north ++ [symbol])) := by
  unfold layTile
  split
  next is_open =>
    subst is_open
    rw [tileFault?_eq_none (by decide) (fun is_start => absurd is_start (by decide))]
    exact ⟨rfl, marks.append_singleton (by decide)⟩
  split
  next is_wall =>
    subst is_wall
    rw [tileFault?_eq_none (by decide) (fun is_start => absurd is_start (by decide))]
    exact ⟨rfl, marks.append_singleton (by decide)⟩
  split
  next is_start =>
    subst is_start
    split
    next started =>
      have again : MapSymbol.start ∈ north := marks.mp started
      simp [Reports, MapFile.tileFault?, again, MapSymbol.all]
    next not_started =>
      rw [tileFault?_eq_none (by decide) fun _ again => not_started (marks.mpr again)]
      exact ⟨rfl, by simp [Marks]⟩
  next not_open not_wall not_start =>
    have unknown : symbol ∉ MapSymbol.all := by
      simp [MapSymbol.all, not_open, not_wall, not_start]
    rw [MapFile.tileFault?, if_pos unknown]
    rfl

theorem reports_layTiles (row : Nat) (west symbols : List Char)
    (marks : draft.Marks (north ++ west)) :
    Reports (draft.layTiles (UInt32.ofNat row) (UInt32.ofNat west.length) symbols)
      ((symbols.zipIdx west.length).flatMap fun (symbol, column) =>
        (MapFile.tileFault? row column (north ++ (west ++ symbols).take column) symbol).toList)
      (·.Marks (north ++ (west ++ symbols))) := by
  induction symbols generalizing draft west with
  | nil => exact ⟨rfl, by simpa using marks⟩
  | cons symbol symbols induction =>
      have first := reports_layTile row west.length symbol marks
      simp only [List.zipIdx_cons, List.flatMap_cons, List.take_left, layTiles]
      refine first.bind fun next marked => ?_
      have rest := induction (west ++ [symbol]) (by simpa using marked)
      rw [ofNat_add_one]
      simpa only [List.length_append, List.length_singleton, List.append_assoc,
        List.singleton_append] using rest

/-! ## Rows -/

theorem dimension_of_lt {count : Nat} (fits : count < UInt32.size) :
    dimension count = .ok (UInt32.ofNat count) :=
  if_pos fits

theorem reports_layRow (row : Nat) (width_lt : width < UInt32.size)
    (length_lt : symbols.length < UInt32.size) (marks : draft.Marks north) :
    Reports (draft.layRow (UInt32.ofNat width) (UInt32.ofNat row) symbols)
      (MapFile.rowFaults width row north symbols) (·.Marks (north ++ symbols)) := by
  rw [layRow, dimension_of_lt length_lt, ok_bind, MapFile.rowFaults]
  by_cases length_eq : symbols.length = width
  · rw [length_eq, if_pos rfl, List.nil_append]
    simpa using reports_layTiles row [] symbols (by simpa using marks)
  · have found_ne : UInt32.ofNat symbols.length ≠ UInt32.ofNat width := by
      rw [Ne, ← UInt32.toNat_inj, UInt32.toNat_ofNat_of_lt' length_lt,
        UInt32.toNat_ofNat_of_lt' width_lt]
      exact length_eq
    simp only [if_neg length_eq, if_pos found_ne]
    rfl

theorem reports_layRows (north south : List String) (width_lt : width < UInt32.size)
    (short_rows : ∀ symbols ∈ south, symbols.length < UInt32.size)
    (marks : draft.Marks (north.flatMap String.toList)) :
    Reports (draft.layRows (UInt32.ofNat width) (UInt32.ofNat north.length) south)
      ((south.zipIdx north.length).flatMap fun (symbols, row) =>
        MapFile.rowFaults width row (((north ++ south).take row).flatMap String.toList)
          symbols.toList)
      fun _ => True := by
  induction south generalizing draft north with
  | nil => exact ⟨rfl, trivial⟩
  | cons symbols south induction =>
      obtain ⟨short, short_rows⟩ := List.forall_mem_cons.mp short_rows
      have first := reports_layRow north.length width_lt
        (String.length_toList.symm ▸ short) marks
      simp only [List.zipIdx_cons, List.flatMap_cons, List.take_left, layRows]
      refine first.bind fun next marked => ?_
      have rest := induction (north ++ [symbols]) short_rows (by simpa using marked)
      rw [ofNat_add_one]
      simpa only [List.length_append, List.length_singleton, List.append_assoc,
        List.singleton_append] using rest

/-! ## Map files -/

/-- Reading a map file stops at the first of its faults. -/
theorem reports_ofMapFile (few_rows : file.rows.length < UInt32.size)
    (short_rows : ∀ row ∈ file.rows, row.length < UInt32.size) :
    Reports (ofMapFile file) file.faults fun _ => True := by
  have width_lt : file.width < UInt32.size := by
    rw [MapFile.width]
    cases rows_eq : file.rows with
    | nil => decide
    | cons first rows => exact short_rows first (by simp [rows_eq])
  have width_eq : (file.rows.head?.map String.length).getD 0 = file.width := rfl
  rw [ofMapFile, MapFile.faults, width_eq]
  by_cases measured : file.tileLength.isPositiveFinite = true
  · by_cases no_tile : file.width = 0
    · simp [Reports, measured, no_tile]
    · have bare : ({ plain file.size with tile := ⟨file.tileLength⟩ } : Layout).Marks [] := by
        simp [Marks, plain]
      have rows_reported := reports_layRows [] file.rows width_lt short_rows bare
      simpa [measured, no_tile, dimension_of_lt width_lt, dimension_of_lt few_rows, MapFile.size]
        using rows_reported
  · simp [Reports, measured]

/-- Reading a map file accepts maps and nothing else, and loses nothing; of any other file it names
the first fault. -/
theorem ofMapFile_names_first_fault (file : MapFile) (few_rows : file.rows.length < UInt32.size)
    (short_rows : ∀ row ∈ file.rows, row.length < UInt32.size) :
    ((∃ layout, ofMapFile file = .ok layout) ↔ file.IsMap file.size) ∧
      (∀ layout, ofMapFile file = .ok layout ↔
        file.IsMap file.size ∧ layout.size = file.size ∧ layout.Depicts file) ∧
      (∀ layout, ofMapFile file = .ok layout → layout.toMapFile = file) ∧
      ∀ fault, ofMapFile file = .error fault ↔ file.faults.head? = some fault := by
  refine ⟨?_, ?_, ?_, ?_⟩
  · constructor
    · rintro ⟨layout, read⟩
      have is_map := (ofMapFile_eq_ok_iff_depicts.mp read).1
      rwa [is_map.size_eq]
    · intro is_map
      obtain ⟨layout, -, read⟩ := exists_ofMapFile_iff.mpr is_map
      exact ⟨layout, read⟩
  · intro layout
    rw [ofMapFile_eq_ok_iff_depicts]
    constructor
    · rintro ⟨is_map, depicts⟩
      exact ⟨is_map.size_eq.symm ▸ is_map, is_map.size_eq.symm, depicts⟩
    · rintro ⟨is_map, size_eq, depicts⟩
      exact ⟨size_eq.symm ▸ is_map, depicts⟩
  · intro layout read
    exact (ofMapFile_eq_ok_iff.mp read).2
  · intro fault
    exact (reports_ofMapFile few_rows short_rows).eq_error_iff

/-- The second row is too short, and that is told before its unknown symbol, the second start behind
it and the third row of another length. -/
theorem ofMapFile_short_second_row :
    let file : MapFile := ⟨Tile.standard.length, ["@.#", "x@", "...."]⟩
    file.rows.length < UInt32.size ∧ (∀ row ∈ file.rows, row.length < UInt32.size) ∧
      file.faults = [.raggedRow 1 3 2, .unknownTile 'x' 0 1, .multipleStarts, .raggedRow 2 3 4] ∧
      ofMapFile file = .error (.raggedRow 1 3 2) := by
  intro file
  have few_rows : file.rows.length < UInt32.size := by decide
  have short_rows : ∀ row ∈ file.rows, row.length < UInt32.size := by decide
  have faults_eq : file.faults =
      [.raggedRow 1 3 2, .unknownTile 'x' 0 1, .multipleStarts, .raggedRow 2 3 4] := by
    decide +kernel
  obtain ⟨-, -, -, first_fault⟩ := ofMapFile_names_first_fault file few_rows short_rows
  exact ⟨few_rows, short_rows, faults_eq, (first_fault _).mpr (by rw [faults_eq]; rfl)⟩

end Layout
end GridWalk
