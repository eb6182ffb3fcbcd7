import PageHarvest.Url.Encode

/-!
# Paths of web addresses

The path of a web address is split at slashes of either kind. A segment `.` stands for nothing and a segment `..` takes
the segment in front of it away, except one that looks like a drive letter; both may be percent-encoded.
-/

namespace PageHarvest.Url.Path

/-- Segments behind which stands a slash, and the last one. -/
structure Segments where
  closed : List Text
  last : Text

/-- Splits a path at its slashes. -/
def split : Text → Segments
  | [] => ⟨[], []⟩
  | c :: t =>
    let s := split t
    if c = '/' ∨ c = '\\' then ⟨[] :: s.closed, s.last⟩
    else
      match s.closed with
      | [] => ⟨[], c :: s.last⟩
      | first :: more => ⟨(c :: first) :: more, s.last⟩

/-- A segment with its percent-encoded dots written out, in lower case. -/
def plainDots : Text → Text
  | [] => []
  | '%' :: '2' :: 'e' :: t => '.' :: plainDots t
  | '%' :: '2' :: 'E' :: t => '.' :: plainDots t
  | c :: t => c :: plainDots t

/-- Does a segment stand for the place itself? -/
def isHere (s : Text) : Bool := plainDots s = ['.']

/-- Does a segment stand for the place above? -/
def isAbove (s : Text) : Bool := plainDots s = ['.', '.']

/-- Does a segment look like a drive letter? -/
def isDrive : Text → Bool
  | [letter, mark] => letter.isAlpha && (mark = ':' || mark = '|')
  | _ => false

/-- The segments above a place, which is given from its last segment to its first. -/
def above : List Text → List Text
  | [] => []
  | s :: rest => if isDrive s then s :: rest else rest

/-- Follows segments from a place. -/
def follow : List Text → List Text → List Text
  | place, [] => place
  | place, s :: rest =>
    if isAbove s then follow (above place) rest
    else if isHere s then follow place rest
    else follow (s :: place) rest

/-- The written form of a path whose first slash has been read. -/
def normalize (t : Text) : Text :=
  let s := split (encode pathSet t)
  let place := follow [] s.closed
  let (place, last) :=
    if isAbove s.last then (above place, [])
    else if isHere s.last then (place, [])
    else (place, s.last)
  '/' :: (place.reverse.flatMap (· ++ ['/']) ++ last)

end PageHarvest.Url.Path
