import PageHarvest.Page.Pipeline
import PageHarvest.Session.Error
import PageHarvest.Session.Prompt

/-!
# Sessions

A session reads locations, parses their pages and writes the records found. The locations are given beforehand
(`Session.batch`), or they are asked for one after the other (`Session.interactive`). A location that is refused or
fails leaves no page; a batch counts those.
-/

namespace PageHarvest

/-- How locations are checked, read, parsed and printed, and the number of workers. -/
structure Session where
  kind : ReaderKind
  plan : Plan
  present : Page → Text
  getters : Nat
  parsers : Nat

namespace Session

/-- Is a location fit to be read? -/
def accepts (s : Session) (location : Text) : Bool := (Location.check s.kind location).isOk

/-- What is written for an outcome: the page, or nothing. -/
def printed (s : Session) : Outcome → Text
  | .parsed page => s.present page
  | .failed _ _ => []

/-- Is an outcome a failure? -/
def isFailure : Outcome → Bool
  | .parsed _ => false
  | .failed _ _ => true

/-- The outcomes of locations, in the order in which they arrive. -/
def outcomes (s : Session) (locations : List Text) : List Outcome :=
  Pipeline.collect s.plan s.getters s.parsers locations

/-- What is written for outcomes. -/
def printedAll (s : Session) (os : List Outcome) : Text := os.flatMap s.printed

/-! ## Locations given beforehand -/

/-- The end of a session with `refused` refused locations and the given outcomes of the others. -/
def conclude (s : Session) (refused : Nat) (os : List Outcome) : Ending :=
  let failures := refused + os.countP isFailure
  ⟨s.printedAll os, if failures = 0 then none else some (.failures failures)⟩

/-- Reads all locations at once. -/
def batch (s : Session) (locations : List Text) : Ending :=
  s.conclude (locations.countP fun l => !s.accepts l) (s.outcomes (locations.filter s.accepts))

/-! ## Locations asked for -/

/-- What is written for a location that was entered. -/
def respond (s : Session) (location : Text) : Text :=
  if s.accepts location then s.printedAll (s.outcomes [location]) else []

/-- What a session does once a line is read: it goes on, with a location or without one, or it ends. -/
inductive Turn where
  | next (location : Option Text)
  | ends (error : Option Error)
  deriving DecidableEq, Repr

/-- What a line makes a session do. At the end of the input the line is empty. -/
def Turn.ofLine (line : List UInt8) : Turn :=
  if line = [] then .ends none
  else
    match Prompt.answer? line with
    | none => .next none
    | some (.location location) => .next (some location)
    | some .finished => .ends none
    | some .unreadable => .ends (some .unreadableInput)

theorem Turn.ne_nil_of_next {line : List UInt8} {location : Option Text} (h : ofLine line = .next location) :
    line ≠ [] := by
  rintro rfl
  cases h

/-- What is written for what a line has brought. -/
def respondAll (s : Session) (location : Option Text) : Text := (location.map s.respond).getD []

/-- Asks for locations until there are no more, a line of the input at a time. It asks as `Prompt.read` does: see
`Session.interactive_eq`. -/
def interactive (s : Session) (input : List UInt8) : Ending :=
  match _h : Turn.ofLine (Prompt.splitLine input).1 with
  | .ends error => ⟨Prompt.text, error⟩
  | .next location => (interactive s (Prompt.splitLine input).2).after (Prompt.text ++ s.respondAll location)
termination_by input.length
decreasing_by
  refine Prompt.length_splitLine_snd_lt ?_
  rintro rfl
  exact Turn.ne_nil_of_next _h rfl

end Session

end PageHarvest
