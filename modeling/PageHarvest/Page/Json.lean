import PageHarvest.Page.Basic

/-!
# Pages as JSON

`Json.page` writes a page as an indented JSON object with the members `location`, `size` and `records`, each record an
object with its fields in order. Indentation is two spaces for each level; empty arrays and objects stay on one line.
-/

namespace PageHarvest.Json

/-- The form of one character inside a JSON string. Only the quote, the backslash and control characters below the
space have one of their own. -/
def escapeChar (c : Char) : Text :=
  if c = '"' then ['\\', '"']
  else if c = '\\' then ['\\', '\\']
  else if c = '\x08' then ['\\', 'b']
  else if c = '\t' then ['\\', 't']
  else if c = '\n' then ['\\', 'n']
  else if c = '\x0c' then ['\\', 'f']
  else if c = '\r' then ['\\', 'r']
  else if c.toNat < 0x20 then
    ['\\', 'u', '0', '0', Nat.digitChar (c.toNat / 16), Nat.digitChar (c.toNat % 16)]
  else [c]

/-- A JSON string. -/
def string (t : Text) : Text := '"' :: (t.flatMap escapeChar ++ ['"'])

/-- A JSON number without sign. -/
def number (n : Nat) : Text := (toString n).toList

/-- A new line, indented to a depth. -/
def newline (depth : Nat) : Text := '\n' :: List.replicate (2 * depth) ' '

/-- Items between two brackets, each on a line of its own one level below `depth`. -/
def enclosed (opening closing : Char) (depth : Nat) : List Text → Text
  | [] => [opening, closing]
  | item :: items =>
    opening :: (newline (depth + 1) ++ item ++ items.flatMap (fun i => ',' :: (newline (depth + 1) ++ i)) ++
      newline depth ++ [closing])

/-- A member of an object: its name and its value, already in JSON. -/
def member (name value : Text) : Text := string name ++ [':', ' '] ++ value

/-- A record as an object. -/
def record (depth : Nat) (r : Record) : Text :=
  enclosed '\x7b' '\x7d' depth (r.fields.map fun f => member f.1 (string f.2))

/-- A page as an object. -/
def page (p : Page) : Text :=
  enclosed '\x7b' '\x7d' 0 [
    member "location".toList (string p.location),
    member "size".toList (number p.size),
    member "records".toList (enclosed '[' ']' 1 (p.records.map (record 2)))]

end PageHarvest.Json
