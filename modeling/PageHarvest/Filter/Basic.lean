import PageHarvest.Text.Basic

/-!
# Filters

A `Filter` is a named transform of a captured value. It never fails: one that cannot do its job gives a fixed value
instead.
-/

namespace PageHarvest

/-- A named transform of text. -/
structure Filter where
  name : Text
  apply : Text → Text

end PageHarvest
