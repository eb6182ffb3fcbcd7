import PageHarvest.Record

/-!
# Pages

A `Page` is what became of a page whose body was read: its location, the size of the body in bytes, and the records
found in it. A `Reader` turns locations into bodies.
-/

namespace PageHarvest

/-- The records found in one page, with its location and the size of its body in bytes. -/
structure Page where
  location : Text
  size : Nat
  records : List Record
  deriving DecidableEq

/-- Gives for each location the body of its page, or the text of the error that kept it from being read. -/
abbrev Reader := Text → Except Text Text

/-- What becomes of a location: a page, or the text of an error. -/
inductive Outcome where
  | parsed (page : Page)
  | failed (location error : Text)
  deriving DecidableEq

/-- The location that an outcome belongs to. -/
def Outcome.location : Outcome → Text
  | .parsed page => page.location
  | .failed location _ => location

end PageHarvest
