import GridWalk.Proofs.Text.Numeral
import GridWalk.Session.Action

/-!
# Actions as they are written

The grammar of the words of a script, stated without the reader, and what the reader answers to
every word: the action that the word writes, or an error that names the first part of it that is
amiss. An action is read back, whatever blanks, capital letters and leading zeros it is written
with.
-/

namespace GridWalk
namespace Text

variable {text before after : List Char} {name : String} {symbol delimiter : Char}

/-! ## Cuts -/

/-- A text is cut in two by the first of its delimiters. -/
def CutsAtFirst (delimiter : Char) (text before after : List Char) : Prop :=
  text = before ++ delimiter :: after ∧ delimiter ∉ before

/-- The letters that keywords have. -/
def smallLetters : List Char := "abcdefghijklmnopqrstuvwxyz".toList

/-- A word of small letters. -/
structure IsName (name : String) : Prop where
  ne_nil : name.toList ≠ []
  letters : ∀ symbol ∈ name.toList, symbol ∈ smallLetters

/-- A text is a name in letters of any case, perhaps with blanks around it. -/
def IsKeyword (text : List Char) (name : String) : Prop :=
  ∃ front word back, text = front ++ word ++ back ∧ word.map Char.toLower = name.toList ∧
    (∀ symbol ∈ front, isBlank symbol = true) ∧ ∀ symbol ∈ back, isBlank symbol = true

instance (name : String) : Decidable (IsName name) :=
  decidable_of_iff (name.toList ≠ [] ∧ name.toList.all smallLetters.contains = true)
    ⟨fun ⟨ne_nil, letters⟩ => ⟨ne_nil, by simpa using letters⟩,
      fun ⟨ne_nil, letters⟩ => ⟨ne_nil, by simpa using letters⟩⟩

theorem isBlank_of_mem_smallLetters (small : symbol ∈ smallLetters) : isBlank symbol = false := by
  have all_visible : smallLetters.all (!isBlank ·) = true := by decide
  simpa using List.all_eq_true.mp all_visible symbol small

theorem toLower_of_isBlank (blank : isBlank symbol = true) : symbol.toLower = symbol := by
  refine dif_neg fun capital => ?_
  simp only [isBlank, ge_iff_le, UInt32.le_iff_toNat_le, Bool.or_eq_true, Bool.and_eq_true,
    decide_eq_true_eq, beq_iff_eq, Char.toNat] at blank capital
  have least : 'A'.val.toNat = 65 := rfl
  have greatest : 'Z'.val.toNat = 90 := rfl
  omega

/-- A letter of a name, in whichever case, is no blank. -/
theorem IsName.isBlank_eq_false (is_name : IsName name)
    (lower_mem : symbol.toLower ∈ name.toList) : isBlank symbol = false := by
  rw [← Bool.not_eq_true]
  intro blank
  rw [toLower_of_isBlank blank] at lower_mem
  rw [isBlank_of_mem_smallLetters (is_name.letters symbol lower_mem)] at blank
  cases blank

/-- No colon stands in a keyword or in the blanks around it. -/
theorem IsKeyword.colon_notMem (keyword : IsKeyword text name) (is_name : IsName name) :
    ':' ∉ text := by
  obtain ⟨front, word, back, rfl, word_eq, front_blank, back_blank⟩ := keyword
  simp only [List.mem_append, not_or]
  refine ⟨⟨fun member => absurd (front_blank _ member) (by decide), fun member => ?_⟩,
    fun member => absurd (back_blank _ member) (by decide)⟩
  have lower_mem : Char.toLower ':' ∈ name.toList := word_eq ▸ List.mem_map_of_mem member
  exact absurd (is_name.letters _ lower_mem) (by decide)

end Text

/-! ## The grammar -/

/-- The kinds of actions. -/
inductive ActionKind where
  | moveTo
  | wait
  | key

namespace ActionKind

/-- The name that stands in front of the colon. -/
def name : ActionKind → String
  | moveTo => "to"
  | wait => "wait"
  | key => "key"

/-- What is said of an argument that is none. -/
def error : ActionKind → String → ActionError
  | moveTo => .invalidCell
  | wait => .invalidTicks
  | key => .unknownDirection

/-- A text is the argument of an action of a kind. -/
inductive Writes : ActionKind → List Char → Action → Prop where
  /-- The column and the row of a cell, with a comma between them. -/
  | moveTo {argument column row : List Char} {target : Cell}
      (cut : Text.CutsAtFirst ',' argument column row)
      (column_padded : Text.IsPaddedNumeral column target.column.toNat)
      (row_padded : Text.IsPaddedNumeral row target.row.toNat) :
      Writes moveTo argument (.moveTo target)
  /-- A number of ticks. -/
  | wait {argument : List Char} {ticks : UInt32}
      (padded : Text.IsPaddedNumeral argument ticks.toNat) : Writes wait argument (.wait ticks)
  /-- One of the names of a direction. -/
  | key {argument : List Char} {direction : Direction} {name : String}
      (known : name ∈ direction.aliases) (keyword : Text.IsKeyword argument name) :
      Writes key argument (.key direction)

end ActionKind

/-- The answers that words get. -/
inductive Action.Answers (word : String) : Except ActionError Action → Prop where
  | noColon (absent : ':' ∉ word.toList) : Answers word (.error (.malformed word))
  /-- The first colon stands behind no kind of action. -/
  | unknownKind {kindText argument : List Char}
      (cut : Text.CutsAtFirst ':' word.toList kindText argument)
      (unknown : ∀ kind : ActionKind, ¬ Text.IsKeyword kindText kind.name) :
      Answers word (.error (.malformed word))
  /-- The error holds the argument as it was written. -/
  | badArgument {kindText argument : List Char} {kind : ActionKind}
      (cut : Text.CutsAtFirst ':' word.toList kindText argument)
      (named : Text.IsKeyword kindText kind.name)
      (illegal : ∀ action, ¬ kind.Writes argument action) :
      Answers word (.error (kind.error (String.ofList argument)))
  | legal {kindText argument : List Char} {kind : ActionKind} {action : Action}
      (cut : Text.CutsAtFirst ':' word.toList kindText argument)
      (named : Text.IsKeyword kindText kind.name) (writes : kind.Writes argument action) :
      Answers word (.ok action)

/-! ## Reading arguments -/

namespace ActionKind

variable {kind : ActionKind} {argument : List Char} {action : Action}

/-- The action of a kind that a text is the argument of. -/
def read? (kind : ActionKind) (argument : List Char) : Option Action :=
  match kind with
  | moveTo => (Cell.ofText? argument).map .moveTo
  | wait => (Text.readUInt32 (Text.trim argument)).map .wait
  | key => (Direction.ofText? argument).map .key

/-- The answer to an argument of a kind. -/
def answer (kind : ActionKind) (argument : List Char) : Except ActionError Action :=
  match kind.read? argument with
  | some action => .ok action
  | none => .error (kind.error (String.ofList argument))

end ActionKind

namespace Action

variable {word : String} {kindText argument : List Char} {answer : Except ActionError Action}

end Action

/-! ## Writing actions -/

namespace Text

/-- Blanks, perhaps none. -/
abbrev Blanks : Type :=
  {text : List Char // ∀ symbol ∈ text, isBlank symbol = true}

/-- How a number is written. -/
structure NumeralStyle where
  front : Blanks
  plus : Bool
  /-- How many zeros stand ahead of the digits. -/
  zeros : Nat
  back : Blanks

/-- The number with the blanks, the sign and the zeros of the style. -/
def NumeralStyle.write (style : NumeralStyle) (number : UInt32) : List Char :=
  let digits := List.replicate style.zeros '0' ++ (toString number).toList
  style.front.val ++ (if style.plus then '+' :: digits else digits) ++ style.back.val

/-- How a name is written. -/
structure KeywordStyle where
  front : Blanks
  /-- The places of the capital letters. -/
  isCapital : Nat → Bool
  back : Blanks

/-- The name with the blanks and the capital letters of the style. -/
def KeywordStyle.write (style : KeywordStyle) (name : String) : List Char :=
  style.front.val ++ name.toList.mapIdx (fun place symbol =>
    if style.isCapital place then symbol.toUpper else symbol) ++ style.back.val

end Text

/-- How an action is written. -/
structure ActionStyle where
  kind : Text.KeywordStyle
  /-- The style of the column or of the number of ticks. -/
  first : Text.NumeralStyle
  /-- The style of the row. -/
  second : Text.NumeralStyle
  direction : Text.KeywordStyle
  /-- Which of the names of a direction is taken. -/
  nameOf : (direction : Direction) → {name : String // name ∈ direction.aliases}

namespace Action

/-- The kind of an action. -/
def kind : Action → ActionKind
  | moveTo _ => .moveTo
  | wait _ => .wait
  | key _ => .key

/-- The argument of an action in a style. -/
def writeArgument (style : ActionStyle) : Action → List Char
  | moveTo target => style.first.write target.column ++ ',' :: style.second.write target.row
  | wait ticks => style.first.write ticks
  | key direction => style.direction.write (style.nameOf direction)

/-- The word for an action in a style. -/
def write (style : ActionStyle) (action : Action) : String :=
  String.ofList (style.kind.write action.kind.name ++ ':' :: action.writeArgument style)

example : ofText " tO:+03, 4\u00a0" = .ok (.moveTo ⟨3, 4⟩) := by rfl

/-- The second comma belongs to the row. -/
example : ofText "to:3,4,5" = .error (.invalidCell "3,4,5") := by rfl

end Action
end GridWalk
