import FieldMap.Json.Basic

/-!
# Settings

The settings of the library with their defaults. `Cell` holds the settings of a whole program: it
is filled once, by `Cell.configure` or by the first use of `Cell.getOrDefault`.
-/

namespace FieldMap

/-- How serializer fields are derived from model fields. -/
structure RestSettings where
  /-- The name of a model's detail view, with places for the model's name and application. -/
  viewNameFormat : String := "{model_name}-detail"
  /-- The name of the field that links to the object itself. -/
  urlFieldName : String := "url"
  /-- Whether relations are links instead of keys. -/
  hyperlinked : Bool := false
  deriving DecidableEq

/-- All settings. -/
structure Settings where
  debug : Bool := true
  logLevel : String := "info"
  rest : RestSettings := {}
  /-- Further settings, which the library keeps but does not read. -/
  extra : Members := []

namespace Settings

/-! ## The settings of a program -/

/-- Settings that are set at most once. -/
structure Cell where
  value : Option Settings := none

/-- What may go wrong with a cell. -/
inductive CellError where
  | alreadyConfigured
  | notConfigured

/-- The text of a cell's error. -/
def CellError.message : CellError → String
  | .alreadyConfigured => "Settings have already been configured"
  | .notConfigured =>
    "Settings have not been configured. Call SETTINGS.configure() first."

namespace Cell

/-- Fills an empty cell. -/
def configure (cell : Cell) (settings : Settings) : Except CellError Cell :=
  match cell.value with
  | none => .ok ⟨some settings⟩
  | some _ => .error .alreadyConfigured

/-- The settings of a filled cell. -/
def get (cell : Cell) : Except CellError Settings :=
  match cell.value with
  | some settings => .ok settings
  | none => .error .notConfigured

/-- The settings of a cell, which is filled with the defaults if it is empty. -/
def getOrDefault (cell : Cell) : Settings × Cell :=
  match cell.value with
  | some settings => (settings, cell)
  | none => ({}, ⟨some {}⟩)

/-- Whether a cell is filled. -/
def isConfigured (cell : Cell) : Bool :=
  cell.value.isSome

end Cell

end Settings

end FieldMap
