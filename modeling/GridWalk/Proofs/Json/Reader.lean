import GridWalk.Json.Reader
import GridWalk.Proofs.Json.Number
import GridWalk.Proofs.Json.Text

/-!
# JSON reads back by shape

The written form of a value stands for it wherever a document may go on behind it. Strings, lists
and records do so when their parts do, and a number does if it reads back on its own.
-/

namespace GridWalk.Json

variable {α β : Type} {more gap written : Bytes} {value : α} {read : Reader α}

/-! ## Blanks -/

theorem dropBlanks_cons {code : UInt8} (visible : isBlank code = false) :
    dropBlanks (code :: more) = code :: more := by
  simp [dropBlanks, visible]

theorem dropBlanks_gap {code : UInt8} (blank : dropBlanks gap = [])
    (visible : isBlank code = false) : dropBlanks (gap ++ code :: more) = code :: more := by
  rw [dropBlanks] at blank
  rw [dropBlanks, List.dropWhile_append, blank, List.isEmpty_nil, if_pos rfl]
  exact dropBlanks_cons visible

theorem dropBlanks_append_of_eq_cons {code : UInt8} {rest : Bytes}
    (found : dropBlanks written = code :: rest) :
    dropBlanks (written ++ more) = code :: (rest ++ more) := by
  rw [dropBlanks] at found
  rw [dropBlanks, List.dropWhile_append, found, if_neg (by simp), List.cons_append]

/-! ## What stands for a value -/

/-- The bytes stand for the value in front of whatever may follow them, but for blanks. -/
def Reads (read : Reader α) (written : Bytes) (value : α) : Prop :=
  ∀ more, Ends more →
    ∃ gap, dropBlanks gap = [] ∧ read (written ++ more) = .ok (value, gap ++ more)

theorem readDocument_eq_ok_iff {input : Bytes} :
    readDocument read input = .ok value ↔
      ∃ gap, dropBlanks gap = [] ∧ read input = .ok (value, gap) := by
  simp only [readDocument, bind_eq_ok_iff]
  constructor
  · rintro ⟨⟨found, gap⟩, read_eq, finished⟩
    by_cases blank : dropBlanks gap = []
    · obtain rfl : found = value := by simpa [blank] using finished
      exact ⟨gap, blank, read_eq⟩
    · simp [blank] at finished
  · rintro ⟨gap, blank, read_eq⟩
    exact ⟨_, read_eq, by simp [blank]⟩

theorem ends_nil : Ends [] := by
  simp [Ends]

theorem readDocument_of_reads (reads : Reads read written value) :
    readDocument read written = .ok value := by
  obtain ⟨gap, blank, read_eq⟩ := reads [] ends_nil
  rw [List.append_nil, List.append_nil] at read_eq
  exact readDocument_eq_ok_iff.mpr ⟨gap, blank, read_eq⟩

/-- A number that makes up a document stands for its value in other documents, too. -/
theorem reads_readNumeric {accept : Number → Option α}
    (alone : readDocument (readNumeric accept) written = .ok value) :
    Reads (readNumeric accept) written value := by
  intro more ends
  obtain ⟨gap, blank, read_eq⟩ := readDocument_eq_ok_iff.mp alone
  refine ⟨gap, blank, ?_⟩
  unfold readNumeric at read_eq ⊢
  cases start : dropBlanks written with
  | nil => simp [start] at read_eq
  | cons code rest =>
      rw [dropBlanks_append_of_eq_cons start]
      simp only [start] at read_eq ⊢
      by_cases numeric : code = byte '-' ∨ isDigit code = true
      · simp only [numeric, if_true, bind_eq_ok_iff] at read_eq ⊢
        obtain ⟨⟨number, behind⟩, number_eq, accepted⟩ := read_eq
        refine ⟨_, readNumber_append ends number_eq, ?_⟩
        cases taken : accept number with
        | none => simp [taken] at accepted
        | some found =>
            obtain ⟨rfl, rfl⟩ : found = value ∧ behind = gap := by
              simpa [taken] using accepted
            simp
      · simp [numeric] at read_eq

theorem bytesOf_quote (text : String) :
    bytesOf (quote text) = byte '"' :: (bytesOf text ++ [byte '"']) := by
  have quote_eq : bytesOf "\"" = [byte '"'] := by
    rw [bytesOf_eq_flatMap]
    decide
  rw [quote, bytesOf_append, bytesOf_append, quote_eq, List.append_assoc]
  rfl

theorem reads_readString {text : String} (plain : ∀ symbol ∈ text.toList, isPlain symbol = true) :
    Reads readString (bytesOf (quote text)) text := by
  intro more _
  refine ⟨[], rfl, ?_⟩
  have first_eq : dropBlanks (bytesOf (quote text) ++ more) =
      byte '"' :: (bytesOf text ++ byte '"' :: more) := by
    rw [bytesOf_quote, List.cons_append, dropBlanks_cons (by decide), List.append_assoc]
    rfl
  rw [readString, first_eq]
  exact readText_of_isPlain plain

theorem closeWith_gap (bracket : Bracket) (more : Bytes) (blank : dropBlanks gap = []) :
    closeWith bracket (gap ++ bracket.closing :: more) = .ok more := by
  have visible : isBlank bracket.closing = false := by
    cases bracket <;> decide
  simp [closeWith, dropBlanks_gap blank visible, expect]

/-! ## Lists -/

/-- The written form of an element can be told from blanks and from the end of a list. -/
def Starts (written : Bytes) : Prop :=
  ∃ code rest, written = code :: rest ∧ isBlank code = false ∧ code ≠ byte ']'

theorem starts_quote (text : String) : Starts (bytesOf (quote text)) :=
  ⟨_, _, bytesOf_quote text, by decide, by decide⟩

theorem nextElement?_end (first : Bool) (more : Bytes) (blank : dropBlanks gap = []) :
    nextElement? first (gap ++ byte ']' :: more) = .ok none := by
  rw [nextElement?, dropBlanks_gap blank (by decide)]
  rfl

theorem nextElement?_first (starts : Starts written) :
    nextElement? true (written ++ more) = .ok (some (written ++ more)) := by
  obtain ⟨code, rest, rfl, visible, not_end⟩ := starts
  simp [nextElement?, dropBlanks_cons visible, not_end]

theorem nextElement?_comma (more : Bytes) (starts : Starts written) (blank : dropBlanks gap = []) :
    nextElement? false (gap ++ byte ',' :: (written ++ more)) = .ok (some (written ++ more)) := by
  obtain ⟨code, rest, rfl, visible, not_end⟩ := starts
  have comma_ne : byte ',' ≠ byte ']' := by decide
  rw [nextElement?, dropBlanks_gap blank (by decide)]
  simp [dropBlanks_cons visible, not_end, comma_ne]

/-- The written form of elements that stand behind another. -/
def writeOthers (write : α → Bytes) (elements : List α) : Bytes :=
  elements.flatMap fun element => byte ',' :: write element

/-- The written form of a list. -/
def writeList (write : α → Bytes) (elements : List α) : Bytes :=
  byte '[' :: ([byte ','].intercalate (elements.map write) ++ [byte ']'])

theorem intercalate_cons (write : α → Bytes) (element : α) (elements : List α) :
    [byte ','].intercalate ((element :: elements).map write) =
      write element ++ writeOthers write elements := by
  induction elements generalizing element with
  | nil => simp [writeOthers]
  | cons next elements induction =>
      rw [List.map_cons, List.map_cons, List.intercalate_cons_cons, ← List.map_cons, induction]
      simp [writeOthers]

theorem length_le_length_writeOthers (write : α → Bytes) (elements : List α) :
    elements.length ≤ (writeOthers write elements).length := by
  induction elements with
  | nil => exact Nat.le_refl _
  | cons element elements induction =>
      simp only [writeOthers, List.flatMap_cons, List.length_append,
        List.length_cons] at induction ⊢
      omega

theorem ends_writeOthers (write : α → Bytes) (elements : List α) (more : Bytes) :
    Ends (writeOthers write elements ++ byte ']' :: more) := by
  cases elements <;> simp [writeOthers, Ends]

section Elements

variable {write : α → Bytes} {elements : List α} {budget : Nat}
  (reads : ∀ element ∈ elements, Reads read (write element) element)
  (starts : ∀ element ∈ elements, Starts (write element))
  (budget_gt : elements.length < budget)

include reads starts budget_gt

/-- Behind the first, the elements are read one after another up to the end of the list. -/
theorem readElements_others (more : Bytes) (blank : dropBlanks gap = []) :
    ∃ behind, dropBlanks behind = [] ∧
      readElements read budget false (gap ++ (writeOthers write elements ++ byte ']' :: more)) =
        .ok (elements, behind ++ byte ']' :: more) := by
  induction elements generalizing budget gap with
  | nil =>
      obtain ⟨budget, rfl⟩ := Nat.exists_eq_add_one.mpr (Nat.zero_lt_of_lt budget_gt)
      refine ⟨gap, blank, ?_⟩
      simp [writeOthers, readElements, nextElement?_end false more blank]
  | cons element elements induction =>
      obtain ⟨budget, rfl⟩ := Nat.exists_eq_add_one.mpr (Nat.zero_lt_of_lt budget_gt)
      obtain ⟨reads_element, reads_others⟩ := List.forall_mem_cons.mp reads
      obtain ⟨starts_element, starts_others⟩ := List.forall_mem_cons.mp starts
      obtain ⟨gap', blank', read_eq⟩ := reads_element _ (ends_writeOthers write elements more)
      obtain ⟨behind, behind_blank, others_eq⟩ :=
        induction reads_others starts_others (Nat.lt_of_succ_lt_succ budget_gt) blank'
      have next_eq :=
        nextElement?_comma (writeOthers write elements ++ byte ']' :: more) starts_element blank
      refine ⟨behind, behind_blank, ?_⟩
      have input_eq : gap ++ (writeOthers write (element :: elements) ++ byte ']' :: more) = gap ++
          byte ',' :: (write element ++ (writeOthers write elements ++ byte ']' :: more)) := by
        simp [writeOthers]
      rw [input_eq, readElements, next_eq]
      simp [read_eq, others_eq]

theorem readElements_first (more : Bytes) :
    ∃ behind, dropBlanks behind = [] ∧
      readElements read budget true
          ([byte ','].intercalate (elements.map write) ++ byte ']' :: more) =
        .ok (elements, behind ++ byte ']' :: more) := by
  obtain ⟨budget, rfl⟩ := Nat.exists_eq_add_one.mpr (Nat.zero_lt_of_lt budget_gt)
  cases elements with
  | nil =>
      refine ⟨[], rfl, ?_⟩
      have next_eq := nextElement?_end true more (show dropBlanks [] = [] from rfl)
      rw [List.nil_append] at next_eq
      simp [readElements, next_eq]
  | cons element elements =>
      obtain ⟨reads_element, reads_others⟩ := List.forall_mem_cons.mp reads
      obtain ⟨starts_element, starts_others⟩ := List.forall_mem_cons.mp starts
      obtain ⟨gap, blank, read_eq⟩ := reads_element _ (ends_writeOthers write elements more)
      obtain ⟨behind, behind_blank, others_eq⟩ :=
        readElements_others reads_others starts_others (Nat.lt_of_succ_lt_succ budget_gt) more blank
      refine ⟨behind, behind_blank, ?_⟩
      rw [intercalate_cons, List.append_assoc, readElements, nextElement?_first starts_element]
      simp [read_eq, others_eq]

omit budget_gt in
theorem reads_readList : Reads (readList read) (writeList write elements) elements := by
  intro more _
  refine ⟨[], rfl, ?_⟩
  have budget_gt : elements.length <
      ([byte ','].intercalate (elements.map write) ++ byte ']' :: more).length + 1 := by
    cases elements with
    | nil => exact Nat.succ_pos _
    | cons element elements =>
        have := length_le_length_writeOthers write elements
        simp only [intercalate_cons, List.length_append, List.length_cons]
        omega
  obtain ⟨behind, blank, elements_eq⟩ := readElements_first reads starts budget_gt more
  have closed : closeWith .list (behind ++ byte ']' :: more) = .ok more :=
    closeWith_gap .list more blank
  rw [writeList, List.cons_append, List.append_assoc, readList, dropBlanks_cons (by decide)]
  simp only [if_true, bind_eq_ok_iff]
  exact ⟨_, elements_eq, _, closed, rfl⟩

end Elements

/-! ## Records of two fields -/

section Names

variable {name : String} (plain : ∀ symbol ∈ name.toList, isPlain symbol = true)

include plain

theorem readMemberName_quote (more : Bytes) :
    readMemberName (bytesOf (quote name) ++ more) = .ok (name, more) := by
  rw [readMemberName, bytesOf_quote, List.cons_append, dropBlanks_cons (by decide),
    List.append_assoc]
  exact readText_of_isPlain plain

theorem nextName?_first (more : Bytes) :
    nextName? true (bytesOf (quote name) ++ more) = .ok (some (name, more)) := by
  have name_eq := readMemberName_quote plain more
  rw [bytesOf_quote, List.cons_append] at name_eq ⊢
  rw [nextName?, dropBlanks_cons (by decide)]
  exact congrArg (some <$> ·) name_eq

theorem nextName?_comma (more : Bytes) (blank : dropBlanks gap = []) :
    nextName? false (gap ++ byte ',' :: (bytesOf (quote name) ++ more)) =
      .ok (some (name, more)) := by
  rw [nextName?, dropBlanks_gap blank (by decide)]
  exact congrArg (some <$> ·) (readMemberName_quote plain more)

end Names

theorem nextName?_end (first : Bool) (more : Bytes) (blank : dropBlanks gap = []) :
    nextName? first (gap ++ byte '}' :: more) = .ok none := by
  rw [nextName?, dropBlanks_gap blank (by decide)]
  rfl

theorem readMember_none (field : RecordField α) (input : Bytes) :
    readMember field none (byte ':' :: input) = field.read input := by
  have colon : expectColon (byte ':' :: input) = .ok input := by
    rw [expectColon, dropBlanks_cons (by decide)]
    rfl
  simp [readMember, colon]

/-- The written form of a record of two fields. -/
def writeRecord (leftName rightName : String) (left right : Bytes) : Bytes :=
  byte '{' :: (bytesOf (quote leftName) ++ byte ':' :: (left ++ byte ',' ::
    (bytesOf (quote rightName) ++ byte ':' :: (right ++ [byte '}']))))

/-- Two fields of different plain names are read from the record that names them in order. -/
theorem reads_readRecord (left : RecordField α) (right : RecordField β) {leftValue : α}
    {rightValue : β} {leftWritten rightWritten : Bytes}
    (left_plain : ∀ symbol ∈ left.name.toList, isPlain symbol = true)
    (right_plain : ∀ symbol ∈ right.name.toList, isPlain symbol = true)
    (name_ne : right.name ≠ left.name) (reads_left : Reads left.read leftWritten leftValue)
    (reads_right : Reads right.read rightWritten rightValue) :
    Reads (readRecord left right) (writeRecord left.name right.name leftWritten rightWritten)
      (leftValue, rightValue) := by
  intro more _
  refine ⟨[], rfl, ?_⟩
  obtain ⟨leftGap, left_blank, left_eq⟩ := reads_left
    (byte ',' :: (bytesOf (quote right.name) ++ byte ':' :: (rightWritten ++ byte '}' :: more)))
    (by simp [Ends])
  obtain ⟨rightGap, right_blank, right_eq⟩ :=
    reads_right (byte '}' :: more) (by simp [Ends])
  have left_name := nextName?_first left_plain (byte ':' :: (leftWritten ++ byte ',' ::
    (bytesOf (quote right.name) ++ byte ':' :: (rightWritten ++ byte '}' :: more))))
  have right_name := nextName?_comma right_plain
    (byte ':' :: (rightWritten ++ byte '}' :: more)) left_blank
  have closing := nextName?_end false more right_blank
  -- One step for each member and one for the end.
  have members_eq (budget : Nat) :
      readMembers left right (budget + 3) true none none
          (bytesOf (quote left.name) ++ byte ':' :: (leftWritten ++ byte ',' ::
            (bytesOf (quote right.name) ++ byte ':' :: (rightWritten ++ byte '}' :: more)))) =
        .ok ((some leftValue, some rightValue), rightGap ++ byte '}' :: more) := by
    rw [readMembers, left_name]
    simp only [ok_bind, if_true, readMember_none, left_eq]
    rw [readMembers, right_name]
    simp only [ok_bind, name_ne, if_false, if_true, readMember_none, right_eq]
    rw [readMembers, closing]
    rfl
  have closed : closeWith .record (rightGap ++ byte '}' :: more) = .ok more :=
    closeWith_gap .record more right_blank
  have members_written : writeRecord left.name right.name leftWritten rightWritten ++ more =
      byte '{' :: (bytesOf (quote left.name) ++ byte ':' :: (leftWritten ++ byte ',' ::
        (bytesOf (quote right.name) ++ byte ':' :: (rightWritten ++ byte '}' :: more)))) := by
    simp [writeRecord]
  have brace_ne : byte '{' ≠ byte '[' := by decide
  rw [members_written, readRecord, dropBlanks_cons (by decide)]
  simp only [brace_ne, if_false, if_true, bind_eq_ok_iff]
  refine ⟨((some leftValue, some rightValue), rightGap ++ byte '}' :: more), ?_,
    (leftValue, rightValue), rfl, more, closed, rfl⟩
  have enough : 3 ≤ (bytesOf (quote left.name) ++ byte ':' :: (leftWritten ++ byte ',' ::
      (bytesOf (quote right.name) ++ byte ':' ::
        (rightWritten ++ byte '}' :: more)))).length + 1 := by
    simp only [List.length_append, List.length_cons]
    omega
  obtain ⟨budget, budget_eq⟩ := Nat.exists_eq_add_of_le' enough
  rw [budget_eq]
  exact members_eq budget

end GridWalk.Json
