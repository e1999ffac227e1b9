/-!
# Surrounding blanks

Blank characters are those with the Unicode property White_Space. Trimming removes them from both
ends of a text and leaves inner ones alone.
-/

namespace GridWalk.Text

/-- Whether a character has the Unicode property White_Space. -/
def isBlank (symbol : Char) : Bool :=
  let code := symbol.toNat
  (0x09 ≤ code && code ≤ 0x0D) || code == 0x20 || code == 0x85 || code == 0xA0 ||
    code == 0x1680 || (0x2000 ≤ code && code ≤ 0x200A) || code == 0x2028 || code == 0x2029 ||
    code == 0x202F || code == 0x205F || code == 0x3000

/-- The text without the blanks at its start. -/
def trimStart (text : List Char) : List Char :=
  text.dropWhile isBlank

/-- The text without the blanks at its end. -/
def trimEnd (text : List Char) : List Char :=
  (text.reverse.dropWhile isBlank).reverse

/-- The text without the blanks at either end. -/
def trim (text : List Char) : List Char :=
  trimEnd (trimStart text)

/-- A text that starts and ends with other characters is already trimmed. -/
theorem trim_of_ends {text : List Char}
    (start : ∀ symbol ∈ text.head?, isBlank symbol = false)
    (finish : ∀ symbol ∈ text.getLast?, isBlank symbol = false) : trim text = text := by
  have start_eq : trimStart text = text := by
    cases text with
    | nil => rfl
    | cons symbol rest => simp [trimStart, start symbol (by simp)]
  rw [trim, start_eq, trimEnd]
  rw [List.getLast?_eq_head?_reverse] at finish
  cases reversed : text.reverse with
  | nil => simpa using congrArg List.reverse reversed
  | cons symbol rest =>
      rw [List.dropWhile_cons, if_neg (by simp [finish symbol (by simp [reversed])])]
      simpa using (congrArg List.reverse reversed).symm

theorem trim_of_forall {text : List Char} (visible : ∀ symbol ∈ text, isBlank symbol = false) :
    trim text = text :=
  trim_of_ends (fun symbol head => visible symbol (List.mem_of_mem_head? head))
    fun symbol last => visible symbol (List.mem_of_mem_getLast? last)

/-- Only blanks are removed. -/
theorem exists_blanks_around_trim (text : List Char) :
    ∃ front back, text = front ++ trim text ++ back ∧ (∀ symbol ∈ front, isBlank symbol = true) ∧
      ∀ symbol ∈ back, isBlank symbol = true := by
  have start_eq : text.takeWhile isBlank ++ trimStart text = text :=
    List.takeWhile_append_dropWhile
  have end_eq : trim text ++ ((trimStart text).reverse.takeWhile isBlank).reverse =
      trimStart text := by
    rw [trim, trimEnd, ← List.reverse_append, List.takeWhile_append_dropWhile, List.reverse_reverse]
  refine ⟨text.takeWhile isBlank, ((trimStart text).reverse.takeWhile isBlank).reverse, ?_,
    List.all_eq_true.mp List.all_takeWhile, fun symbol member => ?_⟩
  · rw [List.append_assoc, end_eq, start_eq]
  · exact List.all_eq_true.mp List.all_takeWhile symbol (List.mem_reverse.mp member)

theorem dropWhile_isBlank_append {front text : List Char}
    (front_blank : ∀ symbol ∈ front, isBlank symbol = true)
    (start : ∀ symbol ∈ text.head?, isBlank symbol = false) :
    (front ++ text).dropWhile isBlank = text := by
  rw [List.dropWhile_append_of_pos front_blank]
  cases text with
  | nil => rfl
  | cons symbol rest => rw [List.dropWhile_cons, start symbol rfl, if_neg Bool.false_ne_true]

/-- Blanks around a word are removed. -/
theorem trim_of_blanks_around {front text back : List Char} (some_symbol : text ≠ [])
    (front_blank : ∀ symbol ∈ front, isBlank symbol = true)
    (visible : ∀ symbol ∈ text, isBlank symbol = false)
    (back_blank : ∀ symbol ∈ back, isBlank symbol = true) :
    trim (front ++ text ++ back) = text := by
  have start (symbol : Char) (first : symbol ∈ (text ++ back).head?) : isBlank symbol = false := by
    rw [List.head?_append, List.head?_eq_some_head some_symbol, Option.some_or] at first
    obtain rfl := Option.some.inj first
    exact visible _ (List.head_mem some_symbol)
  have finish (symbol : Char) (last : symbol ∈ text.reverse.head?) : isBlank symbol = false :=
    visible symbol (List.mem_reverse.mp (List.mem_of_mem_head? last))
  have reversed_blank (symbol : Char) (member : symbol ∈ back.reverse) : isBlank symbol = true :=
    back_blank symbol (List.mem_reverse.mp member)
  rw [trim, trimStart, trimEnd, List.append_assoc, dropWhile_isBlank_append front_blank start,
    List.reverse_append, dropWhile_isBlank_append reversed_blank finish, List.reverse_reverse]

end GridWalk.Text
