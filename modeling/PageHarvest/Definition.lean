import PageHarvest.Extraction.Basic
import PageHarvest.Files

/-!
# Definitions

A `Definition` is a template together with the filters that its placeholders may name. `Definition.records` applies it
to the body of a page.
-/

namespace PageHarvest

/-- A template and the filters it runs with. -/
structure Definition where
  template : Template
  filters : Registry

namespace Definition

/-- Why there is no definition. -/
inductive Error where
  | template (cause : Template.Error)
  | unreadable (path : Text) (cause : FileError)
  deriving DecidableEq, Repr

/-- The wording of an error. -/
def Error.message : Error → Text
  | .template cause => cause.message
  | .unreadable path cause =>
    "Error opening definition file: ".toList ++ path ++ ": ".toList ++ cause.message.toList

/-- Reads a definition that uses the given filters. -/
def parse (source : Text) (filters : Registry) : Except Template.Error Definition :=
  match Template.parse source with
  | .ok template => .ok { template, filters }
  | .error e => .error e

/-- Reads a definition that uses the standard filters from a file. -/
def load (files : Files) (path : Text) : Except Error Definition :=
  match files path with
  | .error e => .error (.unreadable path e)
  | .ok source =>
    match parse source Registry.standard with
    | .ok d => .ok d
    | .error e => .error (.template e)

/-- All records that a definition finds in a content. -/
def records (d : Definition) (content : Text) : List Record := extract d.template d.filters content

end Definition

end PageHarvest
