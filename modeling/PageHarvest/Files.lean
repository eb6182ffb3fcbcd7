import PageHarvest.Text.Basic

/-!
# Reading files

`Files` is what a program sees of the files around it: for each path the text of the file or the reason why there is
none. `Folder` is a directory tree given by the contents of its files; `Folder.read` looks a path up in it, one
component after the other.
-/

namespace PageHarvest

/-- Why a file has no text. -/
inductive FileError where
  | notFound
  | notDirectory
  | isDirectory
  | nameTooLong
  | nulInName
  | notText
  | other (reason : String)
  deriving DecidableEq, Repr

/-- The wording of an error. -/
def FileError.message : FileError → String
  | .notFound => "No such file or directory (os error 2)"
  | .notDirectory => "Not a directory (os error 20)"
  | .isDirectory => "Is a directory (os error 21)"
  | .nameTooLong => "File name too long (os error 36)"
  | .nulInName => "file name contained an unexpected NUL byte"
  | .notText => "stream did not contain valid UTF-8"
  | .other reason => reason

/-- The text of the file at each path. -/
abbrev Files := Text → Except FileError Text

/-- Is there something at the path, be it a file or not? -/
def Files.holds (files : Files) (path : Text) : Bool :=
  match files path with
  | .error .notFound => false
  | .error .notDirectory => false
  | _ => true

namespace Path

/-- The components of a path between its slashes, empty ones included. -/
def components (path : Text) : List Text := path.splitOn '/'

/-- The component that stands for the directory itself. -/
def here : Text := ['.']

/-- The component that stands for the directory above. -/
def above : Text := ['.', '.']

/-- The number of bytes that a component may have. -/
def maxName : Nat := 255

/-- The number of bytes that a path may have. -/
def maxLength : Nat := 4095

end Path

/-- A directory tree: the components of each file's path, and its bytes. -/
structure Folder where
  files : List (List Text × List UInt8)

namespace Folder

/-- The tree of files with the given paths. -/
def ofList (files : List (Text × List UInt8)) : Folder :=
  ⟨files.map fun f => ((Path.components f.1).filter fun c => c ≠ [] ∧ c ≠ Path.here, f.2)⟩

/-- The bytes of the file with these components. -/
def file? (d : Folder) (place : List Text) : Option (List UInt8) :=
  (d.files.find? (·.1 = place)).map Prod.snd

/-- Is there a directory with these components? Directories are those on the way to some file. -/
def isDirectory (d : Folder) (place : List Text) : Bool :=
  place = [] || d.files.any fun f => place.isPrefixOf f.1 && place ≠ f.1

/-- Follows components from a directory `height` levels above the tree, or inside it at `place`. -/
def follow (d : Folder) (height : Nat) (place : List Text) : List Text → Except FileError (List UInt8)
  | [] => .error .isDirectory
  | c :: cs =>
    if c = [] ∨ c = Path.here then follow d height place cs
    else if c = Path.above then
      if place = [] then follow d (height + 1) [] cs else follow d height place.dropLast cs
    else if Text.size c > Path.maxName then .error .nameTooLong
    else if height > 0 then .error .notFound
    else if d.isDirectory (place ++ [c]) then follow d height (place ++ [c]) cs
    else
      match d.file? (place ++ [c]) with
      | none => .error .notFound
      | some bytes => if cs = [] then .ok bytes else .error .notDirectory

/-- The bytes of the file at a path. -/
def bytes (d : Folder) (path : Text) : Except FileError (List UInt8) :=
  if '\x00' ∈ path then .error .nulInName
  else if path = [] then .error .notFound
  else if Text.size path > Path.maxLength then .error .nameTooLong
  else d.follow (if path.head? = some '/' then 1 else 0) [] (Path.components path)

/-- The text of the file at a path. -/
def read (d : Folder) : Files := fun path =>
  match d.bytes path with
  | .error e => .error e
  | .ok bs =>
    match Text.ofBytes? bs with
    | some t => .ok t
    | none => .error .notText

end Folder

end PageHarvest
