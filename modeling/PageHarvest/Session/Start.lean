import PageHarvest.Session.Arguments
import PageHarvest.Session.Basic

/-!
# From arguments to a session

Arguments override settings, and the settings name the definition. A session with locations among its arguments is a
batch; without them it asks for locations.
-/

namespace PageHarvest

/-- Changes settings as arguments ask. -/
def Settings.override (s : Settings) (a : Arguments) : Settings :=
  { s with
    definition := a.definition <|> s.definition
    reader := a.reader.getD s.reader
    format := a.format.getD s.format }

namespace Session

/-- The settings of a session. -/
def settings (files : Files) (a : Arguments) : Except Error Settings :=
  match Settings.load files a.config with
  | .error e => .error (.settings e)
  | .ok s => .ok (s.override a)

/-- The definition that settings name. -/
def definition (files : Files) (s : Settings) : Except Error Definition :=
  match s.definition with
  | none => .error .noDefinition
  | some path =>
    match Definition.load files path with
    | .error e => .error (.definition path e)
    | .ok d => .ok d

/-- The session that settings and a definition make. -/
def ofSettings (files : Files) (fetch : Fetch) (s : Settings) (d : Definition) : Session where
  kind := s.reader
  plan := { read := Location.reader files fetch s.cachePrefix s.reader, parse := d.records }
  present := s.format.present
  getters := s.getterWorkers
  parsers := s.parserWorkers

/-- The session that arguments ask for. -/
def start (files : Files) (fetch : Fetch) (a : Arguments) : Except Error Session := do
  let s ← settings files a
  let d ← definition files s
  return ofSettings files fetch s d

/-- Runs the session that arguments ask for to its end. -/
def run (files : Files) (fetch : Fetch) (input : List UInt8) (args : List Text) : Ending :=
  match Arguments.parse? args with
  | none => ⟨[], some .usage⟩
  | some a =>
    match start files fetch a with
    | .error e => ⟨[], some e⟩
    | .ok s => if a.locations = [] then s.interactive input else s.batch a.locations

end Session

end PageHarvest
