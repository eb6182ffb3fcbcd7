import PageHarvest.Text.Basic
import PageHarvest.Url.Error
import PageHarvest.Url.Ipv4

/-!
# IPv6 addresses

An address has eight pieces of up to four hexadecimal digits with colons between them. Two colons stand for as many
pieces of value zero as are missing, at least one. The last two pieces may be written as an IPv4 address with dots.
-/

namespace PageHarvest.Url.Ipv6

/-- The pieces read so far, and at which of them missing ones are to be filled in. -/
structure Partial where
  pieces : List Nat
  gap : Option Nat
  deriving Repr

/-- The longest run of up to `n` hexadecimal digits at the beginning, and the rest. -/
def hexRun : Nat → Text → Text × Text
  | 0, t => ([], t)
  | _, [] => ([], [])
  | n + 1, c :: t =>
    match Text.digit? 16 c with
    | some _ => let (run, rest) := hexRun n t; (c :: run, rest)
    | none => ([], c :: t)

theorem length_hexRun (n : Nat) (t : Text) : (hexRun n t).1.length + (hexRun n t).2.length = t.length := by
  fun_induction hexRun n t with
  | case1 => simp
  | case2 => simp
  | case3 n c t v hv run rest hr ih => simp_all; omega
  | case4 => simp

/-- A decimal byte without leading zero. -/
def byte? (t : Text) : Option Nat :=
  match t with
  | [] => none
  | '0' :: _ :: _ => none
  | _ => if t.all Char.isDigit then (Text.digits? 10 t).bind fun n => if n ≤ 255 then some n else none else none

/-- The two pieces that an IPv4 address with dots makes up. -/
def dotted? (t : Text) : Option (List Nat) :=
  match (t.splitOn '.').mapM byte? with
  | some [a, b, c, d] => some [a * 256 + b, c * 256 + d]
  | _ => none

/-- Reads the pieces of an address behind those read so far. -/
def pieces? (seen : Partial) (t : Text) : Option Partial :=
  match t with
  | [] => some seen
  | ':' :: rest =>
    if seen.pieces.length < 8 ∧ seen.gap.isNone then
      pieces? ⟨seen.pieces ++ [0], some (seen.pieces.length + 1)⟩ rest
    else none
  | c :: t =>
    if seen.pieces.length < 8 then
      let run := (hexRun 4 (c :: t)).1
      let more := (Text.digits? 16 run).map fun v => { seen with pieces := seen.pieces ++ [v] }
      match _h : (hexRun 4 (c :: t)).2 with
      | [] => more
      | [':'] => none
      | ':' :: d :: rest => more.bind fun m => pieces? m (d :: rest)
      | '.' :: _ =>
        if run ≠ [] ∧ seen.pieces.length ≤ 6 then
          (dotted? (c :: t)).map fun ps => { seen with pieces := seen.pieces ++ ps }
        else none
      | _ => none
    else none
termination_by t.length
decreasing_by
  · simp
  · have := length_hexRun 4 (c :: t)
    simp only [_h, List.length_cons] at this ⊢
    omega

/-- Fills the gap so that there are eight pieces. -/
def fill? (p : Partial) : Option (List Nat) :=
  match p.gap with
  | none => if p.pieces.length = 8 then some p.pieces else none
  | some gap => some (p.pieces.take gap ++ List.replicate (8 - p.pieces.length) 0 ++ p.pieces.drop gap)

/-- The pieces of an address, read from the text between its brackets. -/
def parse (t : Text) : Except Error (List Nat) :=
  let start : Option Partial :=
    match t with
    | ':' :: ':' :: rest => pieces? ⟨[0], some 1⟩ rest
    | ':' :: _ => none
    | _ => if t.length < 2 then none else pieces? ⟨[], none⟩ t
  match start.bind fill? with
  | some ps => .ok ps
  | none => .error .invalidIpv6

/-- The first longest run of zeros as its start and its length, of those that begin at `i` or later. -/
def longestZeros (i : Nat) : List Nat → Nat × Nat
  | [] => (i, 0)
  | p :: ps =>
    let here := ((p :: ps).takeWhile (· = 0)).length
    let later := longestZeros (i + 1) ps
    if here ≥ later.2 then (i, here) else later

/-- A piece in hexadecimal. -/
def printPiece (n : Nat) : Text := Nat.toDigits 16 n

/-- Pieces with colons between them. -/
def printPieces (ps : List Nat) : Text := ((ps.map printPiece).intersperse [':']).flatten

/-- The shortest form of an address: two colons take the place of its first longest run of zeros, if that has two
pieces or more. -/
def print (ps : List Nat) : Text :=
  let (start, length) := longestZeros 0 ps
  if length < 2 then printPieces ps
  else printPieces (ps.take start) ++ [':', ':'] ++ printPieces (ps.drop (start + length))

end PageHarvest.Url.Ipv6
