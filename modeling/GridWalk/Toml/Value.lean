/-!
# TOML values

The tree that a TOML document describes. A table remembers how it came about, because that decides
who may add to it: a header may complete a table that was only implied by longer headers, and a
dotted key may add to a table that no header has defined.
-/

namespace GridWalk.Toml

/-- How a table came about. -/
inductive TableKind where
  /-- By a header of its own, or as the document itself. -/
  | header
  /-- By the header of a table inside it. -/
  | implied
  /-- By a dotted key. -/
  | dotted
  /-- Written in braces, and so complete. -/
  | inline
  deriving DecidableEq, Repr

/-- A value of a document. The contents of fractions and dates are checked and not kept. -/
inductive Value where
  /-- A text. -/
  | text (text : String)
  /-- A whole number. -/
  | integer (value : Int)
  /-- A binary fraction. -/
  | fraction
  /-- A truth value. -/
  | boolean (value : Bool)
  /-- A date, a time or both. -/
  | dateTime
  /-- A list of values. -/
  | array (elements : List Value)
  /-- Values with names, no two of which are the same, the latest name first. -/
  | table (kind : TableKind) (entries : List (String × Value))
  /-- Tables that share a header, the latest first. -/
  | tables (elements : List (List (String × Value)))
  deriving Repr

/-- The entries of a table. -/
abbrev Entries := List (String × Value)

namespace Entries

/-- The value of a name. -/
def find? (entries : Entries) (name : String) : Option Value :=
  entries.lookup name

/-- Gives a name that is there another value. -/
def replace (name : String) (value : Value) : Entries → Entries
  | [] => []
  | (other, old) :: entries =>
      if other = name then (name, value) :: entries
      else (other, old) :: replace name value entries

/-- A way to change the entries of a table of the given kind, if that is allowed. -/
abbrev Change := TableKind → Entries → Option Entries

/-- Carries out a change on the table that a path leads to, making missing tables on the way. A
dotted path may not pass through a table with a header, and no path leads into a table in braces. -/
def changeAt (dotted : Bool) (change : Change) (kind : TableKind) :
    (path : List String) → Entries → Option Entries
  | [], entries => change kind entries
  | name :: path, entries =>
      match entries.find? name with
      | none => do
          let made : TableKind := if dotted then .dotted else .implied
          let inner ← changeAt dotted change made path []
          pure ((name, .table made inner) :: entries)
      | some (.table innerKind inner) =>
          if innerKind = .inline ∨ (dotted ∧ innerKind = .header) then
            none
          else do
            let inner ← changeAt dotted change innerKind path inner
            pure (entries.replace name (.table innerKind inner))
      | some (.tables (latest :: others)) => do
          let latest ← changeAt dotted change .header path latest
          pure (entries.replace name (.tables (latest :: others)))
      | some _ => none

/-- Gives a new name a value. Behind a dotted path only a table made by dotted keys may grow. -/
def assign (dotted : Bool) (name : String) (value : Value) : Change := fun kind entries =>
  if dotted ∧ kind ≠ .dotted then none
  else if (entries.find? name).isSome then none
  else some ((name, value) :: entries)

/-- Defines a table by a header. A table that was only implied becomes defined. -/
def define (name : String) : Change := fun _ entries =>
  match entries.find? name with
  | none => some ((name, .table .header []) :: entries)
  | some (.table .implied inner) => some (entries.replace name (.table .header inner))
  | some _ => none

/-- Adds a table to those that share a header. -/
def append (name : String) : Change := fun _ entries =>
  match entries.find? name with
  | none => some ((name, .tables [[]]) :: entries)
  | some (.tables elements) => some (entries.replace name (.tables ([] :: elements)))
  | some _ => none

/-- Assigns a value to a key of one or more names. -/
def assignKey (entries : Entries) (kind : TableKind) (path : List String) (name : String)
    (value : Value) : Option Entries :=
  entries.changeAt true (assign (path ≠ []) name value) kind path

end Entries

end GridWalk.Toml
