/-!
# Splitting at delimiters

A text is cut at the first delimiter, or into fields at every one. Joining the fields with the
delimiter gives the text back.
-/

namespace GridWalk.Text

/-- What stands before and after the first character that is a delimiter, if there is one. -/
def splitFirst (isDelimiter : Char → Bool) : List Char → Option (List Char × List Char)
  | [] => none
  | symbol :: rest =>
      if isDelimiter symbol then
        some ([], rest)
      else
        (splitFirst isDelimiter rest).map fun (before, after) => (symbol :: before, after)

/-- The fields between the delimiters, of which there is always at least one. -/
def fields (delimiter : Char) : List Char → List (List Char)
  | [] => [[]]
  | symbol :: rest =>
      match fields delimiter rest with
      | [] => [[]]
      | field :: others =>
          if symbol = delimiter then [] :: field :: others else (symbol :: field) :: others

theorem splitFirst_eq_some_iff {isDelimiter : Char → Bool} {text before after : List Char} :
    splitFirst isDelimiter text = some (before, after) ↔
      ∃ delimiter, isDelimiter delimiter = true ∧ (∀ symbol ∈ before, isDelimiter symbol = false) ∧
        text = before ++ delimiter :: after := by
  induction text generalizing before with
  | nil => simp [splitFirst]
  | cons symbol rest induction =>
      unfold splitFirst
      split
      · rename_i delimits
        constructor
        · intro found
          simp only [Option.some.injEq, Prod.mk.injEq] at found
          obtain ⟨rfl, rfl⟩ := found
          exact ⟨symbol, delimits, by simp, rfl⟩
        · rintro ⟨delimiter, _, clean, equal⟩
          cases before with
          | nil => simp_all
          | cons head tail =>
              simp only [List.cons_append, List.cons.injEq] at equal
              have := clean head (by simp)
              simp_all
      · rename_i ordinary
        constructor
        · intro found
          simp only [Option.map_eq_some_iff, Prod.exists, Prod.mk.injEq] at found
          obtain ⟨first, last, found, rfl, rfl⟩ := found
          obtain ⟨delimiter, delimits, clean, rfl⟩ := induction.mp found
          refine ⟨delimiter, delimits, ?_, rfl⟩
          intro other member
          rcases List.mem_cons.mp member with rfl | member
          · simpa using ordinary
          · exact clean other member
        · rintro ⟨delimiter, delimits, clean, equal⟩
          cases before with
          | nil => simp_all
          | cons head tail =>
              simp only [List.cons_append, List.cons.injEq] at equal
              obtain ⟨rfl, rfl⟩ := equal
              have found := (@induction tail).mpr
                ⟨delimiter, delimits, fun other member => clean other (by simp [member]), rfl⟩
              simp [found]

theorem fields_ne_nil (delimiter : Char) (text : List Char) : fields delimiter text ≠ [] := by
  cases text with
  | nil => simp [fields]
  | cons symbol rest =>
      unfold fields
      split
      · simp
      · split <;> simp

theorem fields_of_notMem {delimiter : Char} {field : List Char} (notMem : delimiter ∉ field) :
    fields delimiter field = [field] := by
  induction field with
  | nil => rfl
  | cons symbol rest induction =>
      obtain ⟨symbol_ne, rest_notMem⟩ := not_or.mp (mt List.mem_cons.mpr notMem)
      simp [fields, induction rest_notMem, Ne.symm symbol_ne]

/-- What stands before the first delimiter is the first field. -/
theorem fields_append_cons {delimiter : Char} {field rest : List Char}
    (notMem : delimiter ∉ field) :
    fields delimiter (field ++ delimiter :: rest) = field :: fields delimiter rest := by
  induction field with
  | nil =>
      cases split : fields delimiter rest with
      | nil => exact absurd split (fields_ne_nil delimiter rest)
      | cons first others => simp [fields, split]
  | cons symbol field induction =>
      obtain ⟨symbol_ne, field_notMem⟩ := not_or.mp (mt List.mem_cons.mpr notMem)
      simp [fields, induction field_notMem, Ne.symm symbol_ne]

/-- The first field is the whole text, or it ends at the first delimiter. -/
theorem fields_eq_cons_iff {delimiter : Char} {text field : List Char} {others : List (List Char)} :
    fields delimiter text = field :: others ↔ delimiter ∉ field ∧
      (text = field ∧ others = [] ∨
        ∃ rest, text = field ++ delimiter :: rest ∧ fields delimiter rest = others) := by
  constructor
  · intro found
    by_cases member : delimiter ∈ text
    · obtain ⟨first, rest, rfl, notMem⟩ := List.eq_append_cons_of_mem member
      rw [fields_append_cons notMem] at found
      obtain ⟨rfl, rest_eq⟩ := List.cons.inj found
      exact ⟨notMem, Or.inr ⟨rest, rfl, rest_eq⟩⟩
    · rw [fields_of_notMem member] at found
      obtain ⟨rfl, rfl⟩ := List.cons.inj found
      exact ⟨member, Or.inl ⟨rfl, rfl⟩⟩
  · rintro ⟨notMem, ⟨rfl, rfl⟩ | ⟨rest, rfl, rfl⟩⟩
    · exact fields_of_notMem notMem
    · exact fields_append_cons notMem

end GridWalk.Text
