import PageHarvest.Page.Format
import PageHarvest.Page.Location

/-!
# Arguments

Options and locations may be mixed. The value of an option is the next argument or the rest of its own: `--name=value`,
`-nvalue` and `-n=value`. Behind `--` all arguments are locations. No option may be given twice.
-/

namespace PageHarvest

/-- What the arguments ask for. A level of logging is accepted, though a session logs nothing. -/
structure Arguments where
  config : Option Text := none
  definition : Option Text := none
  reader : Option ReaderKind := none
  format : Option OutputFormat := none
  logLevel : Option Text := none
  locations : List Text := []
  deriving DecidableEq

namespace Arguments

/-- An option. -/
inductive Flag where
  | config
  | definition
  | reader
  | format
  | logLevel
  deriving DecidableEq

/-- The long names of the options. -/
def Flag.names : List (Text × Flag) :=
  [("config".toList, .config), ("definition".toList, .definition), ("reader".toList, .reader),
    ("format".toList, .format), ("log-level".toList, .logLevel)]

/-- The letters of the options that have one. -/
def Flag.letters : List (Char × Flag) := [('c', .config), ('d', .definition), ('r', .reader), ('f', .format)]

/-- Sets a field that is not yet set. -/
def once? {α : Type} (field : Option α) (value : Option α) : Option (Option α) :=
  match field, value with
  | none, some v => some (some v)
  | _, _ => none

/-- Gives an option a value; `none` if it has one or if the value is not allowed. -/
def set? (a : Arguments) (flag : Flag) (value : Text) : Option Arguments :=
  match flag with
  | .config => (once? a.config (some value)).map fun config => { a with config }
  | .definition => (once? a.definition (some value)).map fun definition => { a with definition }
  | .reader => (once? a.reader (ReaderKind.ofName value).toOption).map fun reader => { a with reader }
  | .format => (once? a.format (OutputFormat.ofName value).toOption).map fun format => { a with format }
  | .logLevel => (once? a.logLevel (some value)).map fun logLevel => { a with logLevel }

/-- Adds locations at the end. -/
def addLocations (a : Arguments) (locations : List Text) : Arguments := { a with locations := a.locations ++ locations }

/-- An argument by its form: an option with the value that its own argument holds, the mark behind which there are
locations only, or a location. A lone dash is a location. -/
inductive Shape where
  | long (name : Text) (value : Option Text)
  | short (letter : Char) (value : Option Text)
  | mark
  | plain
  deriving DecidableEq

/-- The form of an argument. -/
def Shape.of : Text → Shape
  | ['-', '-'] => .mark
  | '-' :: '-' :: rest =>
    let name := rest.takeWhile (· ≠ '=')
    .long name (if name = rest then none else some (rest.drop (name.length + 1)))
  | ['-', c] => .short c none
  | '-' :: c :: '=' :: value => .short c (some value)
  | '-' :: c :: value => .short c (some value)
  | _ => .plain

/-- The option that an argument names, and the value in it. -/
def Shape.flag? : Shape → Option (Flag × Option Text)
  | .long name value => (Flag.names.lookup name).map (·, value)
  | .short letter value => (Flag.letters.lookup letter).map (·, value)
  | .mark => none
  | .plain => none

/-- Adds what a list of arguments asks for. -/
def extend? (a : Arguments) : List Text → Option Arguments
  | [] => some a
  | arg :: args =>
    match Shape.of arg with
    | .mark => some (a.addLocations args)
    | .plain => extend? (a.addLocations [arg]) args
    | shape =>
      match shape.flag?, args with
      | none, _ => none
      | some (flag, some value), args => (a.set? flag value).bind fun a => extend? a args
      | some (_, none), [] => none
      | some (flag, none), value :: args =>
        if Shape.of value = .plain then (a.set? flag value).bind fun a => extend? a args else none

/-- What a list of arguments asks for, or `none` if they are not understood. -/
def parse? (args : List Text) : Option Arguments := extend? {} args

end Arguments

end PageHarvest
