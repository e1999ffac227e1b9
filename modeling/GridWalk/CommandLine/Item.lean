import GridWalk.Session.Action
import GridWalk.Text.Split

/-!
# Items of a command line

The words of a command line are options, values of options and actions, in any order. An option has
a long name behind two dashes, and some have a letter behind one. Its value is attached to it or is
the next word, which may not look like an option itself. Behind a word of two dashes every word is
an action.
-/

namespace GridWalk.CommandLine

/-- What an option gives a value to. -/
inductive Parameter where
  | map
  | layout
  | scatter
  | columns
  | rows
  | seed
  | settings
  deriving DecidableEq, Repr

namespace Parameter

/-- Every parameter. -/
def all : List Parameter := [map, layout, scatter, columns, rows, seed, settings]

/-- The long name. -/
def name : Parameter → String
  | map => "map"
  | layout => "layout"
  | scatter => "scatter"
  | columns => "columns"
  | rows => "rows"
  | seed => "seed"
  | settings => "settings"

/-- The letter, if there is one. -/
def letter? : Parameter → Option Char
  | map => some 'm'
  | layout => some 'l'
  | settings => some 's'
  | scatter | columns | rows | seed => none

/-- The parameter of a long name. -/
def named? (name : String) : Option Parameter :=
  all.find? (·.name = name)

/-- The parameter of a letter. -/
def lettered? (letter : Char) : Option Parameter :=
  all.find? (·.letter? = some letter)

end Parameter

/-- Why a command line cannot be followed. -/
inductive UsageError where
  /-- There is no such option, or it takes no value. -/
  | unknownOption (word : String)
  | missingValue (parameter : Parameter)
  | invalidValue (parameter : Parameter) (text : String)
  | repeated (name : String)
  | invalidAction (error : ActionError)
  | conflictingSources
  deriving DecidableEq, Repr

/-- The sentence shown for the error. -/
def UsageError.message : UsageError → String
  | unknownOption word => s!"unexpected argument `{word}`"
  | missingValue parameter => s!"option `--{parameter.name}` needs a value"
  | invalidValue parameter text => s!"invalid value `{text}` for option `--{parameter.name}`"
  | repeated name => s!"option `--{name}` is given more than once"
  | invalidAction error => error.message
  | conflictingSources => "only one of `--map`, `--layout` and `--scatter` can be given"

/-- One thing that a command line says. -/
inductive Item where
  /-- A parameter has a value. -/
  | value (parameter : Parameter) (text : String)
  /-- The layout is wanted as a transfer string. -/
  | encode
  /-- The name and the version of the program are wanted. -/
  | version
  /-- A word that has to be an action. -/
  | action (word : String)
  /-- Nothing that can be followed. -/
  | fault (error : UsageError)
  deriving DecidableEq, Repr

/-- The part that a word plays where no option waits for its value. -/
inductive WordRole where
  /-- The word says one thing. -/
  | item (item : Item)
  /-- The word is an option whose value is the next word. -/
  | awaiting (parameter : Parameter)
  /-- Every further word is an action. -/
  | terminator
  deriving DecidableEq, Repr

namespace WordRole

/-- The role of a long name, with a value behind an equals sign or without. -/
def ofLong (word : String) (text : List Char) : WordRole :=
  match Text.splitFirst (· = '=') text with
  | some (name, value) =>
      match Parameter.named? (String.ofList name) with
      | some parameter => .item (.value parameter (String.ofList value))
      | none => .item (.fault (.unknownOption word))
  | none =>
      let name := String.ofList text
      if name = "encode" then .item .encode
      else if name = "version" then .item .version
      else
        match Parameter.named? name with
        | some parameter => .awaiting parameter
        | none => .item (.fault (.unknownOption word))

/-- The role of a letter with what is attached to it. -/
def ofShort (word : String) (letter : Char) (attached : List Char) : WordRole :=
  if letter = 'V' then .item .version
  else
    match Parameter.lettered? letter, attached with
    | some parameter, [] => .awaiting parameter
    | some parameter, '=' :: value => .item (.value parameter (String.ofList value))
    | some parameter, value => .item (.value parameter (String.ofList value))
    | none, _ => .item (.fault (.unknownOption word))

/-- The role of a word. -/
def of (word : String) : WordRole :=
  match word.toList with
  | ['-', '-'] => .terminator
  | '-' :: '-' :: text => ofLong word text
  | '-' :: letter :: attached => ofShort word letter attached
  | _ => .item (.action word)

end WordRole

/-- Whether a word can be the value of the option before it: a dash may only stand alone. -/
def isValue (word : String) : Bool :=
  match word.toList with
  | '-' :: _ :: _ => false
  | _ => true

/-- What the words say if the option before them, if any, waits for its value. -/
def itemsFrom : Option Parameter → List String → List Item
  | none, [] => []
  | some parameter, [] => [.fault (.missingValue parameter)]
  | some parameter, word :: words =>
      if isValue word then .value parameter word :: itemsFrom none words
      else [.fault (.missingValue parameter)]
  | none, word :: words =>
      match WordRole.of word with
      | .item item => item :: itemsFrom none words
      | .awaiting parameter => itemsFrom (some parameter) words
      | .terminator => words.map .action

/-- What the words of a command line say. -/
def items (words : List String) : List Item :=
  itemsFrom none words

end GridWalk.CommandLine
