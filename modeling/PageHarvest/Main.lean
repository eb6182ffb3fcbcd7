import PageHarvest.Session.Start

/-!
# The command line

The program reads the files that a session needs, hands their contents to it, and writes what the session writes. Pages
on the web are not fetched.
-/

namespace PageHarvest.CommandLine

/-- The reason for which a file could not be read. -/
def fileError : IO.Error → FileError
  | .noFileOrDirectory _ _ _ => .notFound
  | .inappropriateType _ code _ => if code = 21 then .isDirectory else .notDirectory
  | .permissionDenied _ code details => .other s!"{details} (os error {code})"
  | e => .other (toString e)

/-- The text of a file. -/
def readFile (path : Text) : IO (Except FileError Text) := do
  try
    let bytes ← IO.FS.readBinFile (String.ofList path)
    return match Text.ofBytes? bytes.toList with
      | some t => .ok t
      | none => .error .notText
  catch e => return .error (fileError e)

/-- The files at the given paths; nothing is known about other ones. -/
def readFiles (paths : List Text) : IO Files := do
  let entries ← paths.mapM fun path => do return (path, ← readFile path)
  return fun path => (entries.lookup path).getD (.error .notFound)

/-- The network, which cannot be reached. -/
def fetch : Fetch := fun _ => .error "there is no network"

/-- Writes text. -/
def write (t : Text) : IO Unit := do
  let out ← IO.getStdout
  out.putStr (String.ofList t)
  out.flush

/-- Reads a line of the input with the newline that ends it. -/
partial def readLine (line : List UInt8) : IO (List UInt8) := do
  let bytes := (← (← IO.getStdin).read 1).toList
  match bytes with
  | [] => return line.reverse
  | b :: _ => if b = Prompt.newline then return (b :: line).reverse else readLine (b :: line)

/-- Asks for locations until there are no more: the error that ended it. What a line does is what it does in
`Session.interactive`. -/
partial def converse (session : List Text → IO Session) : IO (Option Session.Error) := do
  write Prompt.text
  match Session.Turn.ofLine (← readLine []) with
  | .ends error => return error
  | .next location =>
    write ((← session location.toList).respondAll location)
    converse session

/-- Runs the session that arguments ask for: the error that ended it. -/
def serve (a : Arguments) : IO (Option Session.Error) := do
  match Session.settings (← readFiles [a.config.getD Settings.defaultPath]) a with
  | .error e => return some e
  | .ok settings =>
    match Session.definition (← readFiles settings.definition.toList) settings with
    | .error e => return some e
    | .ok d =>
      let session := fun locations => do
        return Session.ofSettings (← readFiles (if settings.reader = .file then locations else [])) fetch settings d
      if a.locations = [] then converse session
      else
        let ending := (← session a.locations).batch a.locations
        write ending.output
        return ending.error

/-- Tells what ended a session, and gives the number to end the program with. -/
def report (error : Option Session.Error) : IO UInt32 := do
  match error with
  | none => return 0
  | some e =>
    IO.eprintln s!"Error: {String.ofList e.message}"
    for cause in e.cause? do IO.eprintln s!"\nCaused by:\n    {String.ofList cause}"
    return e.code.toUInt32

end PageHarvest.CommandLine

open PageHarvest in
/-- Runs the program. -/
def main (args : List String) : IO UInt32 := do
  match Arguments.parse? (args.map String.toList) with
  | none => CommandLine.report (some .usage)
  | some a => CommandLine.report (← CommandLine.serve a)
