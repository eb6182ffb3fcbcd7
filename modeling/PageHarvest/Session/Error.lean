import PageHarvest.Definition
import PageHarvest.Settings

/-!
# How sessions end
-/

namespace PageHarvest.Session

/-- Why a session ends with an error. -/
inductive Error where
  | usage
  | settings (cause : Settings.Error)
  | noDefinition
  | definition (path : Text) (cause : Definition.Error)
  | unreadableInput
  | failures (count : Nat)
  deriving DecidableEq, Repr

namespace Error

/-- The wording of an error, its cause apart. -/
def message : Error → Text
  | .usage => "The arguments are not understood".toList
  | .settings cause => cause.message
  | .noDefinition => "No definition file given; pass --definition or set \x60definition\x60 in the config".toList
  | .definition path _ => "failed to read definition ".toList ++ path
  | .unreadableInput => "error reading from stdin".toList
  | .failures count => (toString count).toList ++ " location(s) could not be scraped".toList

/-- The wording of the cause of an error, if it has one. -/
def cause? : Error → Option Text
  | .usage => none
  | .settings cause => cause.cause?
  | .noDefinition => none
  | .definition _ cause => some cause.message
  | .unreadableInput => some FileError.notText.message.toList
  | .failures _ => none

/-- The number by which a program reports an error. -/
def code : Error → Nat
  | .usage => 2
  | _ => 1

end Error

/-- What a session leaves behind: all it wrote, and the error it ended with. -/
structure Ending where
  output : Text
  error : Option Error
  deriving DecidableEq, Repr

/-- The number by which a program reports how a session ended. -/
def Ending.code (e : Ending) : Nat :=
  match e.error with
  | none => 0
  | some error => error.code

/-- Puts text in front of what a session wrote. -/
def Ending.after (e : Ending) (output : Text) : Ending := { e with output := output ++ e.output }

end PageHarvest.Session
