import PageHarvest.Page.Format
import PageHarvest.Page.Location
import PageHarvest.Yaml.Document
import PageHarvest.Yaml.Schema

/-!
# Settings

Settings come from a YAML document that holds a mapping; what it does not mention has a default. Keys that mean nothing
are left aside, but none that means something may stand twice.
-/

namespace PageHarvest

/-- How pages are read, parsed and printed. -/
structure Settings where
  definition : Option Text := none
  reader : ReaderKind := .http
  cachePrefix : Text := "http://webcache.googleusercontent.com/search?q=cache:".toList
  timeoutSecs : Nat := 30
  getterWorkers : Nat := 4
  parserWorkers : Nat := 4
  format : OutputFormat := .text
  deriving DecidableEq

namespace Settings

/-- Why there are no settings. -/
inductive Error where
  | unreadable (path : Text) (cause : FileError)
  | malformed
  | noWorkers
  | noTimeout
  deriving DecidableEq, Repr

/-- The wording of an error, its cause apart. -/
def Error.message : Error → Text
  | .unreadable path _ => "Could not read config file ".toList ++ path
  | .malformed => "Invalid yaml configuration".toList
  | .noWorkers => "Worker counts must be at least 1".toList
  | .noTimeout => "timeout_secs must be at least 1".toList

/-- The wording of the cause of an error, if it has one. -/
def Error.cause? : Error → Option Text
  | .unreadable _ cause => some cause.message.toList
  | .malformed => none
  | .noWorkers => none
  | .noTimeout => none

/-- The file that is read when no other one is named. -/
def defaultPath : Text := "scraper.yml".toList

/-! ## Fields -/

/-- A field of a document. -/
inductive Field where
  | definition
  | reader
  | cachePrefix
  | timeoutSecs
  | getterWorkers
  | parserWorkers
  | format
  deriving DecidableEq

/-- The fields and their keys. -/
def Field.keys : List (Text × Field) :=
  [("definition".toList, .definition), ("reader".toList, .reader), ("cache_prefix".toList, .cachePrefix),
    ("timeout_secs".toList, .timeoutSecs), ("getter_workers".toList, .getterWorkers),
    ("parser_workers".toList, .parserWorkers), ("format".toList, .format)]

/-- Sets a field to what a scalar stands for. -/
def set? (s : Settings) (f : Field) (v : Yaml.Scalar) : Option Settings :=
  match f with
  | .definition => v.optional?.map fun definition => { s with definition }
  | .reader => (v.choice?.bind fun name => (ReaderKind.ofName name).toOption).map fun reader => { s with reader }
  | .cachePrefix => some { s with cachePrefix := v.text }
  | .timeoutSecs => v.natural?.map fun timeoutSecs => { s with timeoutSecs }
  | .getterWorkers => v.natural?.map fun getterWorkers => { s with getterWorkers }
  | .parserWorkers => v.natural?.map fun parserWorkers => { s with parserWorkers }
  | .format => (v.choice?.bind fun name => (OutputFormat.ofName name).toOption).map fun format => { s with format }

/-! ## Documents -/

/-- Sets what the entries of a document say. No field in `seen` may be set again. -/
def setAll? (d : Yaml.Document) (s : Settings) (seen : List Field) : List (Yaml.Node × Yaml.Node) → Option Settings
  | [] => some s
  | (key, value) :: entries => do
    let key ← d.scalar? key
    match Field.keys.lookup key.text with
    | none => setAll? d s seen entries
    | some f =>
      if f ∈ seen then none
      else
        let s ← s.set? f (← d.scalar? value)
        setAll? d s (f :: seen) entries

/-- The settings of a document. An empty document says nothing. -/
def ofDocument? (d : Yaml.Document) : Option Settings :=
  match d.root with
  | .mapping entries => setAll? d {} [] entries
  | .scalar s => if s.style = .plain ∧ s.text = [] then some {} else none
  | _ => none

/-- Refuses settings with which nothing could be read. -/
def check (s : Settings) : Except Error Settings :=
  if s.getterWorkers = 0 ∨ s.parserWorkers = 0 then .error .noWorkers
  else if s.timeoutSecs = 0 then .error .noTimeout
  else .ok s

/-- The settings of a YAML text. -/
def ofYaml (t : Text) : Except Error Settings :=
  match (Yaml.Document.ofText? t).bind ofDocument? with
  | some s => check s
  | none => .error .malformed

/-- The settings in a file. -/
def ofFile (files : Files) (path : Text) : Except Error Settings :=
  match files path with
  | .error e => .error (.unreadable path e)
  | .ok t => ofYaml t

/-- The settings in the named file; without one, those in the usual file, or the defaults if it does not exist. -/
def load (files : Files) (path : Option Text) : Except Error Settings :=
  match path with
  | some path => ofFile files path
  | none => if files.holds defaultPath then ofFile files defaultPath else .ok {}

end Settings

end PageHarvest
