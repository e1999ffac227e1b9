import GridWalk.Movement.Controller
import GridWalk.Toml.Document

/-!
# Settings

The tunable part of a session, read from a TOML document. A section may be a table or an array of
its values in order; what is not given keeps its standard value. A table may hold nothing that is
not known.
-/

namespace GridWalk

/-- The tunable part of a session. -/
structure Settings where
  /-- The tunable part of the searches. -/
  search : SearchConfig := {}
  /-- The tunable part of movement. -/
  movement : MovementConfig := {}
  deriving DecidableEq

/-- Why there are no settings. -/
inductive SettingsError where
  /-- The document is not TOML or of another shape than wanted. -/
  | unreadable
  | unsupportedVersion (version : UInt32)
  | zeroTickInterval
  deriving DecidableEq, Repr

namespace Settings

/-- The version of documents that can be read. -/
def supportedVersion : UInt32 := 1

end Settings

/-- The sentence shown for the error. -/
def SettingsError.message : SettingsError → String
  | unreadable => "failed to parse settings toml contents"
  | unsupportedVersion version =>
      s!"unsupported settings version {version}; expected {Settings.supportedVersion}"
  | zeroTickInterval => "movement.tick_interval_ms must be positive"

namespace Settings

/-! ## Shapes -/

/-- A whole number from zero up to, but not including, a limit. -/
def natural? (limit : Nat) : Toml.Value → Option Nat
  | .integer value => if 0 ≤ value ∧ value < limit then some value.toNat else none
  | _ => none

/-- A 32-bit number. -/
def word? (value : Toml.Value) : Option UInt32 :=
  (natural? UInt32.size value).map UInt32.ofNat

/-- A 64-bit number. -/
def longWord? (value : Toml.Value) : Option UInt64 :=
  (natural? UInt64.size value).map UInt64.ofNat

/-- Whether a value holds nothing. -/
def isVoid : Toml.Value → Bool
  | .table _ entries => entries.isEmpty
  | .array elements => elements.isEmpty
  | _ => false

/-- The policy of a name. -/
def policyNamed? (name : String) : Option ConcurrentMovePolicy :=
  if name = "ignore" then some .ignore
  else if name = "supersede" then some .supersede
  else none

/-- A policy: its name, or a table whose only entry is the name with nothing in it. -/
def policy? : Toml.Value → Option ConcurrentMovePolicy
  | .text name => policyNamed? name
  | .table _ [(name, value)] => if isVoid value then policyNamed? name else none
  | _ => none

/-- The values of the named fields of a section, absent where they are not given. A section that is
an array may be shorter or longer than the names. -/
def fields? (names : List String) : Toml.Value → Option (List (Option Toml.Value))
  | .table _ entries =>
      if entries.all fun (name, _) => names.contains name then
        some (names.map (Toml.Entries.find? entries))
      else
        none
  | .array elements => some ((List.range names.length).map (elements[·]?))
  | _ => none

/-- The reading of a value, or the standard value if none is given. -/
def orStandard {α : Type} (read : Toml.Value → Option α) (standard : α) :
    Option Toml.Value → Option α
  | some value => read value
  | none => some standard

/-! ## Sections -/

/-- The section on searches. -/
def search? (written : Toml.Value) : Option SearchConfig :=
  match fields? ["iteration_cap"] written with
  | some [cap] => do
      let standard : SearchConfig := {}
      pure ⟨← orStandard word? standard.iterationCap cap⟩
  | _ => none

/-- The section on movement. -/
def movement? (written : Toml.Value) : Option MovementConfig :=
  match fields? ["tick_interval_ms", "concurrent_moves"] written with
  | some [interval, policy] => do
      let standard : MovementConfig := {}
      let readInterval (value : Toml.Value) := (longWord? value).map Duration.ofMilliseconds
      pure ⟨← orStandard readInterval standard.tickInterval interval,
        ← orStandard policy? standard.concurrentMoves policy⟩
  | _ => none

/-- The version and the settings of a document. -/
def ofEntries? (entries : Toml.Entries) : Option (UInt32 × Settings) := do
  match fields? ["version", "search", "movement"] (.table .header entries) with
  | some [some version, search, movement] =>
      let settings : Settings :=
        ⟨← orStandard search? {} search, ← orStandard movement? {} movement⟩
      pure (← word? version, settings)
  | _ => none

/-- The settings that a document gives. -/
def ofText (document : String) : Except SettingsError Settings :=
  match (Toml.readDocument document).bind ofEntries? with
  | none => .error .unreadable
  | some (version, settings) =>
      if version ≠ supportedVersion then .error (.unsupportedVersion version)
      else if settings.movement.tickInterval = .zero then .error .zeroTickInterval
      else .ok settings

end Settings

end GridWalk
