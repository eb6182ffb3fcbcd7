import PageHarvest.Page.Json

/-!
# Output formats

A page is printed as plain text, with one line for each field and an empty line behind each record, or as JSON.
-/

namespace PageHarvest

/-- How a page is printed. -/
inductive OutputFormat where
  | text
  | json
  deriving DecidableEq, Repr, Inhabited

namespace OutputFormat

/-- The name by which a format is chosen. -/
def name : OutputFormat → Text
  | .text => "text".toList
  | .json => "json".toList

/-- The format of a name, or the wording of the error. -/
def ofName (name : Text) : Except Text OutputFormat :=
  if name = OutputFormat.text.name then .ok .text
  else if name = OutputFormat.json.name then .ok .json
  else .error ("Unknown format '".toList ++ name ++ "', expected text or json".toList)

/-- One line for a field. -/
def fieldLine (f : Text × Text) : Text := f.1 ++ [':', ' '] ++ f.2 ++ ['\n']

/-- The lines of a record and the empty line behind them. -/
def recordLines (r : Record) : Text := r.fields.flatMap fieldLine ++ ['\n']

/-- The printed form of a page. -/
def present : OutputFormat → Page → Text
  | .text, p => p.records.flatMap recordLines
  | .json, p => Json.page p

end OutputFormat

end PageHarvest
