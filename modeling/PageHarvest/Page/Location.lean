import PageHarvest.Files
import PageHarvest.Page.Basic
import PageHarvest.Text.Blank
import PageHarvest.Url.Basic

/-!
# Reading the body of a page

A location is read over the web, through a page cache on the web, or from a file. Only web addresses may be fetched.
The network itself is a parameter: `Fetch` gives the body behind an address.
-/

namespace PageHarvest

/-- How bodies are read. -/
inductive ReaderKind where
  | http
  | cache
  | file
  deriving DecidableEq, Repr, Inhabited

namespace ReaderKind

/-- The name by which a kind is chosen. -/
def name : ReaderKind → Text
  | .http => "http".toList
  | .cache => "cache".toList
  | .file => "file".toList

/-- The kind of a name, or the wording of the error. -/
def ofName (name : Text) : Except Text ReaderKind :=
  if name = ReaderKind.http.name then .ok .http
  else if name = ReaderKind.cache.name then .ok .cache
  else if name = ReaderKind.file.name then .ok .file
  else .error ("Unknown reader '".toList ++ name ++ "', expected http, cache or file".toList)

end ReaderKind

/-- Why a body could not be read. -/
inductive ReadError where
  | invalidAddress (location : Text) (cause : Url.Error)
  | forbiddenScheme (scheme : Text)
  | emptyLocation
  | unreadable (path : Text) (cause : FileError)
  | unreachable (location : Text) (cause : String)
  deriving DecidableEq, Repr

namespace ReadError

/-- The wording of an error, its cause apart. -/
def message : ReadError → Text
  | .invalidAddress location _ => "Invalid URL '".toList ++ location ++ "'".toList
  | .forbiddenScheme scheme =>
    "Only http:// and https:// URLs are allowed, got '".toList ++ scheme ++ "://'".toList
  | .emptyLocation => "url length cannot be 0".toList
  | .unreadable path _ => "could not read file: ".toList ++ path
  | .unreachable location _ => "could not get from url: ".toList ++ location

/-- The wording of the cause of an error, if it has one. -/
def cause? : ReadError → Option Text
  | .invalidAddress _ cause => some cause.message.toList
  | .forbiddenScheme _ => none
  | .emptyLocation => none
  | .unreadable _ cause => some cause.message.toList
  | .unreachable _ cause => some cause.toList

/-- The wording of an error and of its cause. -/
def report (e : ReadError) : Text :=
  match e.cause? with
  | some cause => e.message ++ ": ".toList ++ cause
  | none => e.message

end ReadError

/-- Gives the body behind a web address. -/
abbrev Fetch := Url.Web → Except String Text

namespace Location

/-- The web address that a location stands for, white space around it apart. -/
def address (location : Text) : Except ReadError Url.Web :=
  match Url.parse (Text.trim location) with
  | .error e => .error (.invalidAddress location e)
  | .ok (.other scheme) => .error (.forbiddenScheme scheme)
  | .ok (.web w) => .ok w

/-- Reads a location over the web. -/
def readWeb (fetch : Fetch) (location : Text) : Except ReadError Text :=
  match address location with
  | .error e => .error e
  | .ok w =>
    match fetch w with
    | .error cause => .error (.unreachable location cause)
    | .ok body => .ok body

/-- The location of a page in a cache whose addresses begin with `start`. -/
def inCache (start location : Text) : Text := start ++ location

/-- Reads a location by the given kind of reader. -/
def read (files : Files) (fetch : Fetch) (cachePrefix : Text) (kind : ReaderKind) (location : Text) :
    Except ReadError Text :=
  match kind with
  | .http => readWeb fetch location
  | .cache => if location = [] then .error .emptyLocation else readWeb fetch (inCache cachePrefix location)
  | .file =>
    match files location with
    | .error e => .error (.unreadable location e)
    | .ok body => .ok body

/-- Is a location fit for a kind of reader? Only locations on the web are checked before they are read. -/
def check (kind : ReaderKind) (location : Text) : Except ReadError Unit :=
  match kind with
  | .http => (address location).map fun _ => ()
  | _ => .ok ()

/-- The reader of a kind. -/
def reader (files : Files) (fetch : Fetch) (cachePrefix : Text) (kind : ReaderKind) : Reader := fun location =>
  match read files fetch cachePrefix kind location with
  | .error e => .error e.report
  | .ok body => .ok body

end Location

end PageHarvest
